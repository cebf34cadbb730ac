/-
This file says which roots a watcher lists and which of them it watches. The first request for a root that stands has
the native watch asked for, and the root is listed from then on, whatever the native watch answers.
-/
import Mathlib.Data.List.Induction
import ScriptHost.Proofs.File.Normal

namespace ScriptHost.File

namespace Pathname

variable {path other third : Pathname}

/-- Two spellings of one root are alike in either order. -/
theorem same_symm (same : path.same other = true) : other.same path = true :=
  same_iff.mpr (same_iff.mp same).symm

/-- Spellings that are like a third are alike. -/
theorem same_trans (same : path.same other = true) (same' : other.same third = true) : path.same third = true :=
  same_iff.mpr ((same_iff.mp same).trans (same_iff.mp same'))

end Pathname

namespace Watcher

/-- A root is to be watched in the files of that moment, and the native watch would give this answer. -/
structure Request where
  tree : Tree
  root : Pathname
  kind : RootKind
  refusal : Option String

namespace Request

def stands (request : Request) : Bool :=
  request.tree.exists? request.root

/-- The native watch is asked for this path. -/
def normal (request : Request) : Pathname :=
  request.tree.normalize request.root

/-- The table lists the root under this path. -/
def listed (request : Request) : Pathname :=
  request.tree.normalize request.normal

def entry (request : Request) : Pathname × RootKind :=
  (request.listed, request.kind)

/-- A root that can be resolved is listed by its normal spelling. -/
theorem listed_eq_normal {request : Request}
    (found : (request.tree.resolve (request.tree.absolute request.root)).isSome) : request.listed = request.normal :=
  Tree.normalize_normalize found

end Request

def serve (watcher : Watcher) (request : Request) : Watcher × Except WatchError Unit :=
  watcher.watchRoot request.tree (fun _ => request.refusal) request.root request.kind

/-- The requests are served one after the other by a new watcher. -/
def after (requests : List Request) : Watcher :=
  requests.foldl (fun watcher request => (watcher.serve request).1) .empty

/-- This is all that serving a request can do. -/
inductive Served (watcher : Watcher) (request : Request) : Watcher × Except WatchError Unit → Prop
  | missing (gone : request.stands = false) : Served watcher request (watcher, .error (.missing request.root))
  | known (stands : request.stands = true) (held : watcher.table.holds request.listed = true) :
      Served watcher request (watcher, .ok ())
  | refused {reason : String} (stands : request.stands = true) (new : watcher.table.holds request.listed = false)
      (refused : request.refusal = some reason) :
      Served watcher request
        (⟨⟨watcher.table.roots ++ [request.entry]⟩, watcher.watched⟩, .error (.refused request.normal reason))
  | granted (stands : request.stands = true) (new : watcher.table.holds request.listed = false)
      (granted : request.refusal = none) :
      Served watcher request (⟨⟨watcher.table.roots ++ [request.entry]⟩, watcher.watched ++ [request.normal]⟩, .ok ())

/-- The root stands, and no earlier request for it did: the native watch is asked for. -/
def Asks (earlier : List Request) (request : Request) : Prop :=
  request.stands = true ∧ ∀ former ∈ earlier, former.stands = true → former.listed.same request.listed = false

/-- The native watch on the root was asked for and gave this answer. -/
def Answers (requests : List Request) (root : Pathname) (refusal : Option String) : Prop :=
  ∃ earlier request later, requests = earlier ++ request :: later ∧ Asks earlier request ∧
    request.listed.same root = true ∧ request.refusal = refusal

abbrev Established (requests : List Request) (root : Pathname) : Prop :=
  Answers requests root none

/-- No native watch that was asked for was refused. -/
def Granted (requests : List Request) : Prop :=
  ∀ earlier request later, requests = earlier ++ request :: later → Asks earlier request → request.refusal = none

/-- A root is listed exactly while it is watched, an error leaves the watcher as it was, and whoever is told that all
went well has the root watched. -/
structure Atomic (requests : List Request) : Prop where
  listed : ∀ earlier later, requests = earlier ++ later →
    ∀ root, (after earlier).table.holds root = true ↔ Established earlier root
  restored : ∀ earlier request later error, requests = earlier ++ request :: later →
    ((after earlier).serve request).2 = .error error → ((after earlier).serve request).1 = after earlier
  honest : ∀ earlier request later, requests = earlier ++ request :: later →
    ((after earlier).serve request).2 = .ok () → Established (earlier ++ [request]) request.listed

variable {watcher : Watcher} {request : Request} {requests earlier later : List Request} {root path : Pathname}
  {refusal : Option String}

/-- A root is inserted unless it is listed already. -/
theorem insert_listed (watcher : Watcher) (request : Request) :
    watcher.table.insert request.tree request.normal request.kind =
      if watcher.table.holds request.listed = true then (watcher.table, false)
      else (⟨watcher.table.roots ++ [request.entry]⟩, true) := rfl

/-- A request is served as its root stands and is listed. -/
theorem serve_served (watcher : Watcher) (request : Request) : watcher.Served request (watcher.serve request) := by
  unfold serve watchRoot
  by_cases stands : request.stands = true
  · have present : ¬ ¬ request.tree.exists? request.root = true := not_not.mpr stands
    rw [if_neg present]
    dsimp only
    rw [← Request.normal, insert_listed]
    by_cases held : watcher.table.holds request.listed = true
    · rw [if_pos held]
      exact .known stands held
    · rw [if_neg held]
      have new := Bool.eq_false_iff.mpr held
      cases answer : request.refusal with
      | some reason => exact .refused stands new answer
      | none => exact .granted stands new answer
  · have absent : ¬ request.tree.exists? request.root = true := stands
    rw [if_pos absent]
    exact .missing (Bool.eq_false_iff.mpr stands)

/-- The last request is served after the others. -/
theorem after_concat (requests : List Request) (request : Request) :
    after (requests ++ [request]) = ((after requests).serve request).1 := by
  rw [after, after, List.foldl_append, List.foldl_cons, List.foldl_nil]

/-- A root is listed after an insertion if it was, or if it is the one inserted. -/
theorem holds_append {entry : Pathname × RootKind} {watched : List Pathname} :
    (⟨⟨watcher.table.roots ++ [entry]⟩, watched⟩ : Watcher).table.holds root = true ↔
      watcher.table.holds root = true ∨ entry.1.same root = true := by
  simp [RootTable.holds]

/-- A root is listed once a request for it has come while it stood. -/
theorem holds_after :
    (after requests).table.holds root = true ↔
      ∃ request ∈ requests, request.stands = true ∧ request.listed.same root = true := by
  induction requests using List.reverseRecOn with
  | nil => simp [after, Watcher.empty, RootTable.empty, RootTable.holds]
  | append_singleton requests request ih =>
      have parts : (∃ other ∈ requests ++ [request], other.stands = true ∧ other.listed.same root = true) ↔
          (after requests).table.holds root = true ∨ request.stands = true ∧ request.listed.same root = true := by
        rw [ih]
        simp only [List.mem_append, List.mem_singleton, or_and_right, exists_or, exists_eq_left]
      rw [parts, after_concat]
      have served := (after requests).serve_served request
      generalize (after requests).serve request = outcome at served
      cases served with
      | missing gone => simp [gone]
      | known stands held =>
          refine ⟨Or.inl, fun either => either.elim id fun own => ?_⟩
          obtain ⟨entry, member, same⟩ := RootTable.holds_iff.mp held
          exact RootTable.holds_iff.mpr ⟨entry, member, Pathname.same_trans same own.2⟩
      | refused stands | granted stands =>
          rw [holds_append, stands]
          simp [Request.entry]

/-- A request asks the native watch if its root stands and is not listed yet. -/
theorem asks_iff : Asks earlier request ↔
    request.stands = true ∧ (after earlier).table.holds request.listed = false := by
  refine and_congr_right fun _ => ?_
  rw [Bool.eq_false_iff, Ne, holds_after]
  simp

/-- One of some requests is an earlier one or the last one. -/
theorem split_concat {holds : List Request → Request → Prop} :
    (∃ earlier other later, requests ++ [request] = earlier ++ other :: later ∧ holds earlier other) ↔
      (∃ earlier other later, requests = earlier ++ other :: later ∧ holds earlier other) ∨ holds requests request := by
  constructor
  · rintro ⟨earlier, other, later, divided, holds⟩
    rcases List.eq_nil_or_concat later with rfl | ⟨later, last, rfl⟩
    · obtain ⟨rfl, same⟩ := List.append_inj' divided rfl
      obtain rfl := (List.cons.inj same).1
      exact Or.inr holds
    · rw [List.concat_eq_append, ← List.cons_append, ← List.append_assoc] at divided
      obtain ⟨rfl, -⟩ := List.append_inj' divided rfl
      exact Or.inl ⟨earlier, other, later, rfl, holds⟩
  · rintro (⟨earlier, other, later, rfl, holds⟩ | holds)
    · exact ⟨earlier, other, later ++ [request], by simp, holds⟩
    · exact ⟨requests, request, [], rfl, holds⟩

/-- Later requests do not change what the native watch answered to the first one. -/
theorem Answers.extend (answers : Answers earlier root refusal) (later : List Request) :
    Answers (earlier ++ later) root refusal := by
  obtain ⟨before, request, behind, rfl, asks⟩ := answers
  exact ⟨before, request, behind ++ later, by simp, asks⟩

/-- Of the requests for a listed root, the first one had the native watch asked for. -/
theorem holds_iff_answers : (after requests).table.holds root = true ↔ ∃ refusal, Answers requests root refusal := by
  rw [holds_after]
  constructor
  · induction requests using List.reverseRecOn with
    | nil => simp
    | append_singleton requests request ih =>
        rintro ⟨other, member, stands, same⟩
        by_cases known : ∃ former ∈ requests, former.stands = true ∧ former.listed.same root = true
        · obtain ⟨refusal, answers⟩ := ih known
          exact ⟨refusal, answers.extend [request]⟩
        · obtain rfl : other = request := by
            rcases List.mem_append.mp member with old | last
            · exact absurd ⟨other, old, stands, same⟩ known
            · exact List.mem_singleton.mp last
          refine ⟨other.refusal, requests, other, [], rfl, ⟨stands, fun former old stood => ?_⟩, same, rfl⟩
          rw [Bool.eq_false_iff]
          intro alike
          exact known ⟨former, old, stood, Pathname.same_trans alike same⟩
  · rintro ⟨refusal, earlier, request, later, rfl, asks, same, -⟩
    exact ⟨request, by simp, asks.1, same⟩

/-- Whoever asks first is the first to ask for that root. -/
theorem Asks.first {former : Request} (asks : Asks earlier request) (old : former ∈ earlier)
    (stood : former.stands = true) : ¬ former.listed.same request.listed = true := by
  rw [asks.2 former old stood]
  exact Bool.false_ne_true

/-- The native watch on a root is asked for once. -/
theorem Answers.unique {other : Option String} (answers : Answers requests root refusal)
    (answers' : Answers requests root other) : refusal = other := by
  obtain ⟨before, request, behind, divided, asks, same, rfl⟩ := answers
  obtain ⟨before', request', behind', divided', asks', same', rfl⟩ := answers'
  have alike := Pathname.same_trans same (Pathname.same_symm same')
  rcases List.append_eq_append_iff.mp (divided.symm.trans divided') with
    ⟨between, rfl, rest⟩ | ⟨between, rfl, rest⟩
  · cases between with
    | nil => rw [(List.cons.inj rest).1]
    | cons first between =>
        obtain rfl := (List.cons.inj rest).1
        exact absurd alike (asks'.first (by simp) asks.1)
  · cases between with
    | nil => rw [(List.cons.inj rest).1]
    | cons first between =>
        obtain rfl := (List.cons.inj rest).1
        exact absurd (Pathname.same_symm alike) (asks.first (by simp) asks'.1)

/-- The watched paths are those that the native watch was asked for and granted. -/
theorem mem_watched : path ∈ (after requests).watched ↔ ∃ earlier request later,
    requests = earlier ++ request :: later ∧ Asks earlier request ∧ request.refusal = none ∧ request.normal = path := by
  induction requests using List.reverseRecOn with
  | nil => simp [after, Watcher.empty]
  | append_singleton requests request ih =>
      rw [split_concat, ← ih, asks_iff, after_concat]
      have served := (after requests).serve_served request
      generalize (after requests).serve request = outcome at served
      cases served with
      | missing gone => simp [gone]
      | known stands held => simp [held]
      | refused stands new refused => simp [refused]
      | granted stands new granted => simp [stands, new, granted, eq_comm]

/-- If all that was asked for was granted, so was what was asked for earlier. -/
theorem Granted.shorter (granted : Granted (earlier ++ later)) : Granted earlier := by
  rintro before request behind rfl asks
  exact granted before request (behind ++ later) (by simp) asks

/-- Where nothing was refused, a root is listed exactly while it is watched. -/
theorem Granted.established (granted : Granted requests) :
    (after requests).table.holds root = true ↔ Established requests root := by
  rw [holds_iff_answers]
  refine ⟨?_, fun established => ⟨none, established⟩⟩
  rintro ⟨refusal, before, request, behind, divided, asks, same, -⟩
  exact ⟨before, request, behind, divided, asks, same, granted before request behind divided asks⟩

/-- Listing and watching agree exactly when every native watch was granted. -/
theorem atomic_iff : Atomic requests ↔ Granted requests := by
  constructor
  · intro atomic earlier request later divided asks
    have restored := fun error => atomic.restored earlier request later error divided
    obtain ⟨stands, new⟩ := asks_iff.mp asks
    have served := (after earlier).serve_served request
    generalize (after earlier).serve request = outcome at served restored
    cases served with
    | missing gone => rw [stands] at gone; cases gone
    | known _ held => rw [new] at held; cases held
    | refused =>
        -- The refused root has entered the table.
        have same := congrArg (fun watcher => watcher.table.roots.length) (restored _ rfl)
        simp at same
    | granted _ _ granted => exact granted
  · intro granted
    refine ⟨?_, ?_, ?_⟩
    · rintro earlier later rfl root
      exact granted.shorter.established
    · intro earlier request later error divided failed
      have served := (after earlier).serve_served request
      generalize (after earlier).serve request = outcome at served failed
      cases served with
      | missing => rfl
      | refused stands new refused =>
          rw [granted earlier request later divided (asks_iff.mpr ⟨stands, new⟩)] at refused
          cases refused
      | known | granted => cases failed
    · rintro earlier request later rfl fine
      have served := (after earlier).serve_served request
      generalize (after earlier).serve request = outcome at served fine
      cases served with
      | known stands held => exact (granted.shorter.established.mp held).extend [request]
      | granted stands new granted =>
          exact ⟨earlier, request, [], rfl, asks_iff.mpr ⟨stands, new⟩, Pathname.same_iff.mpr rfl, granted⟩
      | missing | refused => cases fine

/-- A root is listed exactly once the native watch on it has been asked for, which the first request does that finds
it standing. A refusal leaves it listed, so later requests go well and ask for nothing. Listing and watching fall
together, and errors undo everything, exactly where nothing is refused. -/
theorem listed_once_asked (requests : List Request) :
    (∀ request, (after requests).Served request ((after requests).serve request)) ∧
      (∀ request, Asks requests request ↔
        request.stands = true ∧ (after requests).table.holds request.listed = false) ∧
      (∀ root, (after requests).table.holds root = true ↔ ∃ refusal, Answers requests root refusal) ∧
      (∀ root first second, Answers requests root first → Answers requests root second → first = second) ∧
      (∀ path, path ∈ (after requests).watched ↔ ∃ earlier request later, requests = earlier ++ request :: later ∧
        Asks earlier request ∧ request.refusal = none ∧ request.normal = path) ∧
      (∀ request ∈ requests, (request.tree.resolve (request.tree.absolute request.root)).isSome →
        request.listed = request.normal) ∧
      (Atomic requests ↔ Granted requests) :=
  ⟨(after requests).serve_served, fun _ => asks_iff, fun _ => holds_iff_answers, fun _ _ _ => Answers.unique,
    fun _ => mem_watched, fun _ _ => Request.listed_eq_normal, atomic_iff⟩

def scripts : Tree where
  entries := [(["scripts"], .directory true)]
  working := []

/-- The directory stands, and the native watch on it is refused. -/
def unlucky : Request :=
  ⟨scripts, ⟨"scripts"⟩, .scripts, some "OS file watch limit reached."⟩

/-- The refused root is listed although nothing is watched, and the second request goes well. -/
theorem refused_root_listed :
    (serve .empty unlucky).2 = .error (.refused ⟨"/scripts"⟩ "OS file watch limit reached.") ∧
      (after [unlucky]).table.roots = [(⟨"/scripts"⟩, .scripts)] ∧ (after [unlucky]).watched = [] ∧
      serve (after [unlucky]) unlucky = (after [unlucky], .ok ()) ∧ ¬ Atomic [unlucky, unlucky] := by
  have refused : (serve .empty unlucky).2 = .error (.refused ⟨"/scripts"⟩ "OS file watch limit reached.") := by
    decide +kernel
  refine ⟨refused, by decide +kernel, by decide +kernel, by decide +kernel, fun atomic => ?_⟩
  have restored := atomic.restored [] unlucky [unlucky] _ rfl refused
  exact absurd restored (by decide +kernel)

end Watcher

end ScriptHost.File
