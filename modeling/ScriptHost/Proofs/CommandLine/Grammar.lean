/-
This file says which command lines are taken, what each of them sets, and what is wrong with the others.
-/
import Mathlib.Data.Option.Basic
import ScriptHost.Proofs.CommandLine.Counts

namespace ScriptHost.CommandLine

open File (Pathname)

inductive Flag where
  | config
  | fixture
  | ticks
  | scripts
  | hotReload
  | log
  deriving DecidableEq

def Flag.key : Flag → String
  | .config => "config"
  | .fixture => "fixture"
  | .ticks => "ticks"
  | .scripts => "scripts"
  | .hotReload => "hot-reload"
  | .log => "log"

def Flag.word (flag : Flag) : String :=
  "--" ++ flag.key

def switchWords : Bool → List String
  | true => ["1", "true", "on", "yes"]
  | false => ["0", "false", "off", "no"]

/-- The case of the letters does not matter. -/
def IsSwitch (text : String) (setting : Bool) : Prop :=
  lowerAscii text ∈ switchWords setting

/-- Two of the flags do not take every value. -/
def Flag.Takes (value : String) : Flag → Prop
  | .ticks => ∃ count, IsCount value count
  | .hotReload => ∃ setting, IsSwitch value setting
  | _ => True

abbrev Pair := String × String

def Accepted (pair : Pair) : Prop :=
  ∃ flag : Flag, pair.1 = flag.word ∧ flag.Takes pair.2

/-- The pairs stand one after the other on the command line. -/
def spelled (pairs : List Pair) : List String :=
  pairs.flatMap fun pair => [pair.1, pair.2]

def last (pairs : List Pair) (flag : Flag) : Option String :=
  (pairs.filter fun pair => pair.1 = flag.word).getLast?.map Prod.snd

/-- The field of the flag holds what the text says, and nothing if there is none. -/
def Flag.Reads (options : Options) (text : Option String) : Flag → Prop
  | .config => options.config = text.map Pathname.mk
  | .fixture => options.fixture = text.map Pathname.mk
  | .ticks => Option.Rel IsCount text options.ticks
  | .scripts => options.scriptRoot = text.map Pathname.mk
  | .hotReload => Option.Rel IsSwitch text options.hotReload
  | .log => options.logLevel = text

/-- Every field holds the last value of its flag. -/
def Holds (pairs : List Pair) (options : Options) : Prop :=
  ∀ flag : Flag, flag.Reads options (last pairs flag)

def Dashed (argument : String) : Prop :=
  ['-', '-'] <+: argument.toList

/-- The pair that these arguments begin with is wrong, and this is what is reported. -/
inductive Failure : List String → Error → Prop
  | notAFlag {argument : String} {rest : List String} (plain : ¬ Dashed argument) :
      Failure (argument :: rest) (.notAFlag argument)
  | missingValue {argument : String} (dashed : Dashed argument) : Failure [argument] (.missingValue argument)
  | unknownFlag {argument value : String} {rest : List String} (dashed : Dashed argument)
      (unknown : ∀ flag : Flag, argument ≠ flag.word) : Failure (argument :: value :: rest) (.unknownFlag argument)
  | badTicks {value : String} {cause : NumberError} {rest : List String} (miscount : Miscount value cause) :
      Failure (Flag.ticks.word :: value :: rest) (.badTicks value cause)
  | badSwitch {value : String} {rest : List String} (neither : ∀ setting, ¬ IsSwitch value setting) :
      Failure (Flag.hotReload.word :: value :: rest) (.badSwitch (lowerAscii value))

variable {flag other : Flag} {argument value : String} {options after : Options} {pairs : List Pair}
  {rest : List String} {error : Error} {setting : Bool}

section Words

/-- A switch is one of the words of its setting. -/
theorem switch?_eq (word : String) :
    switch? word =
      if word ∈ switchWords true then some true else if word ∈ switchWords false then some false else none := rfl

/-- Each word stands for one setting. -/
theorem switch?_eq_some {word : String} : switch? word = some setting ↔ word ∈ switchWords setting := by
  have apart : word ∈ switchWords false → word ∉ switchWords true := by
    intro off
    simp only [switchWords, List.mem_cons, List.not_mem_nil, or_false] at off
    rcases off with rfl | rfl | rfl | rfl <;> decide
  rw [switch?_eq]
  by_cases on : word ∈ switchWords true
  · rw [if_pos on]
    cases setting with
    | true => exact iff_of_true rfl on
    | false => exact iff_of_false nofun fun off => apart off on
  · rw [if_neg on]
    cases setting with
    | true => exact iff_of_false (by split <;> nofun) on
    | false => simp

/-- A switch is read exactly where one is written. -/
theorem readSwitch_ok : readSwitch value = .ok setting ↔ IsSwitch value setting := by
  rw [IsSwitch, ← switch?_eq_some, readSwitch]
  cases switch? (lowerAscii value) <;> simp

/-- Other words are refused in lower case. -/
theorem readSwitch_error (neither : ∀ setting, ¬ IsSwitch value setting) :
    readSwitch value = .error (.badSwitch (lowerAscii value)) := by
  cases read : readSwitch value with
  | ok setting => exact absurd (readSwitch_ok.mp read) (neither setting)
  | error error =>
    unfold readSwitch at read
    split at read
    · cases read
    · exact read.symm

/-- The key of a flag is its word without the dashes. -/
theorem flagKey_word (flag : Flag) : flagKey flag.word = some flag.key := by
  cases flag <;> rfl

/-- No two flags share a word. -/
theorem word_injective : Function.Injective Flag.word := by
  intro flag other same
  cases flag <;> cases other <;> first | rfl | exact absurd same (by decide)

/-- An argument without dashes has no key. -/
theorem flagKey_eq_none (plain : ¬ Dashed argument) : flagKey argument = none := by
  unfold flagKey
  split
  · next key same => exact absurd ⟨key, same.symm⟩ plain
  · rfl

/-- An argument with a key is that key behind two dashes. -/
theorem flagKey_eq_some {key : String} (dashed : flagKey argument = some key) : argument = "--" ++ key := by
  unfold flagKey at dashed
  split at dashed
  · next letters same =>
    cases dashed
    rw [← String.toList_inj, String.toList_append, String.toList_ofList, String.toList_ofList, same]
    rfl
  · cases dashed

/-- An argument with dashes has a key. -/
theorem Dashed.flagKey (dashed : Dashed argument) : ∃ key, flagKey argument = some key := by
  obtain ⟨key, same⟩ := dashed
  exact ⟨String.ofList key, by rw [CommandLine.flagKey, ← same]; rfl⟩

end Words

section Steps

/-- The ticks are read as a count. -/
theorem set_ticks (options : Options) (value : String) :
    options.set Flag.ticks.word Flag.ticks.key value =
      match readCount value with
      | .ok ticks => .ok { options with ticks := some ticks }
      | .error cause => .error (Error.badTicks value cause) := rfl

/-- Hot reload is read as a switch. -/
theorem set_hotReload (options : Options) (value : String) :
    options.set Flag.hotReload.word Flag.hotReload.key value =
      match readSwitch value with
      | .ok setting => .ok { options with hotReload := some setting }
      | .error error => .error error := rfl

/-- An argument that is no flag is refused as it stands. -/
theorem set_unknown {key : String} (unknown : ∀ flag : Flag, key ≠ flag.key) :
    options.set argument key value = .error (.unknownFlag argument) := by
  unfold Options.set
  split
  · exact absurd rfl (unknown .config)
  · exact absurd rfl (unknown .fixture)
  · exact absurd rfl (unknown .ticks)
  · exact absurd rfl (unknown .scripts)
  · exact absurd rfl (unknown .hotReload)
  · exact absurd rfl (unknown .log)
  · rfl

/-- What a flag sets is read back, and all other flags keep what they read. -/
theorem set_takes (takes : flag.Takes value) (options : Options) :
    ∃ after, options.set flag.word flag.key value = .ok after ∧ flag.Reads after (some value) ∧
      ∀ other text, flag ≠ other → other.Reads options text → other.Reads after text := by
  cases flag with
  | config | fixture | scripts | log =>
    refine ⟨_, rfl, rfl, fun other text unlike reads => ?_⟩
    cases other <;> first | exact reads | exact absurd rfl unlike
  | ticks =>
    obtain ⟨count, written⟩ := takes
    refine ⟨{ options with ticks := some count }, ?_, .some written, fun other text unlike reads => ?_⟩
    · rw [set_ticks, readCount_ok.mpr written]
    · cases other <;> first | exact reads | exact absurd rfl unlike
  | hotReload =>
    obtain ⟨setting, named⟩ := takes
    refine ⟨{ options with hotReload := some setting }, ?_, .some named, fun other text unlike reads => ?_⟩
    · rw [set_hotReload, readSwitch_ok.mpr named]
    · cases other <;> first | exact reads | exact absurd rfl unlike

/-- A flag and its value are set before the rest is looked at. -/
theorem parsePairs_word (options : Options) (flag : Flag) (value : String) (rest : List String) :
    parsePairs options (flag.word :: value :: rest) =
      match options.set flag.word flag.key value with
      | .ok after => parsePairs after rest
      | .error error => .error error := by
  rw [parsePairs, flagKey_word]
  dsimp only
  cases options.set flag.word flag.key value <;> rfl

/-- The first pair is taken, or it is wrong. -/
theorem accepted_or_failure (argument value : String) (rest : List String) :
    Accepted (argument, value) ∨ ∃ error, Failure (argument :: value :: rest) error := by
  by_cases dashed : Dashed argument
  · by_cases known : ∃ flag : Flag, argument = flag.word
    · obtain ⟨flag, rfl⟩ := known
      cases flag with
      | config | fixture | scripts | log => exact .inl ⟨_, rfl, trivial⟩
      | ticks =>
        cases read : readCount value with
        | ok count => exact .inl ⟨.ticks, rfl, count, readCount_ok.mp read⟩
        | error cause => exact .inr ⟨_, .badTicks (readCount_error.mp read)⟩
      | hotReload =>
        by_cases named : ∃ setting, IsSwitch value setting
        · exact .inl ⟨.hotReload, rfl, named⟩
        · exact .inr ⟨_, .badSwitch (not_exists.mp named)⟩
    · exact .inr ⟨_, .unknownFlag dashed (not_exists.mp known)⟩
  · exact .inr ⟨_, .notAFlag dashed⟩

/-- What is wrong is reported, whatever was set before. -/
theorem parsePairs_failure (failure : Failure rest error) (options : Options) :
    parsePairs options rest = .error error := by
  cases failure with
  | @notAFlag argument rest plain =>
    have absent := flagKey_eq_none plain
    rcases rest with - | ⟨value, rest⟩ <;> rw [parsePairs, absent]
  | missingValue dashed =>
    obtain ⟨key, named⟩ := dashed.flagKey
    rw [parsePairs, named]
  | unknownFlag dashed unknown =>
    obtain ⟨key, named⟩ := dashed.flagKey
    have foreign (flag : Flag) : key ≠ flag.key := by
      rintro rfl
      exact unknown flag (flagKey_eq_some named)
    rw [parsePairs, named]
    simp only [set_unknown foreign]
  | badTicks miscount => rw [parsePairs_word, set_ticks, readCount_error.mpr miscount]
  | badSwitch neither => rw [parsePairs_word, set_hotReload, readSwitch_error neither]

end Steps

section Runs

/-- A pair behind the others is spelled behind them. -/
theorem spelled_concat (pairs : List Pair) (pair : Pair) (rest : List String) :
    spelled (pairs ++ [pair]) ++ rest = spelled pairs ++ pair.1 :: pair.2 :: rest := by
  rw [spelled, List.flatMap_append, List.append_assoc]
  rfl

/-- The pair behind the others has the last word. -/
theorem last_concat (pairs : List Pair) (flag other : Flag) (value : String) :
    last (pairs ++ [(flag.word, value)]) other = if flag = other then some value else last pairs other := by
  rw [last, List.filter_append]
  by_cases same : flag = other
  · subst same
    simp
  · have unlike : flag.word ≠ other.word := word_injective.ne same
    simp [last, same, unlike]

/-- Without arguments nothing is set. -/
theorem holds_nil : Holds [] .none := by
  intro flag
  cases flag <;> first | rfl | exact .none

/-- Pairs that are taken are read off one after the other, and the last value of a flag counts. -/
theorem parsePairs_spelled (accepted : ∀ pair ∈ pairs, Accepted pair) (rest : List String) :
    ∃ options, Holds pairs options ∧ parsePairs .none (spelled pairs ++ rest) = parsePairs options rest := by
  induction pairs using List.reverseRecOn generalizing rest with
  | nil => exact ⟨.none, holds_nil, rfl⟩
  | append_singleton pairs pair ih =>
    rw [List.forall_mem_append, List.forall_mem_singleton] at accepted
    obtain ⟨earlier, flag, named, takes⟩ := accepted
    obtain ⟨word, value⟩ := pair
    obtain rfl : word = flag.word := named
    obtain ⟨before, holds, read⟩ := ih earlier (flag.word :: value :: rest)
    obtain ⟨after, set, reads, spares⟩ := set_takes takes before
    refine ⟨after, fun other => ?_, ?_⟩
    · rw [last_concat]
      split
      · next same => exact same ▸ reads
      · next unlike => exact spares other _ unlike (holds other)
    · rw [spelled_concat, read, parsePairs_word, set]

/-- Arguments begin with pairs that are taken, and end there or go on with a pair that is wrong. -/
theorem divided : (arguments : List String) →
    ∃ pairs rest, arguments = spelled pairs ++ rest ∧ (∀ pair ∈ pairs, Accepted pair) ∧
      (rest = [] ∨ ∃ error, Failure rest error)
  | [] => ⟨[], [], rfl, nofun, .inl rfl⟩
  | [argument] => by
    refine ⟨[], [argument], rfl, nofun, .inr ?_⟩
    by_cases dashed : Dashed argument
    · exact ⟨_, .missingValue dashed⟩
    · exact ⟨_, .notAFlag dashed⟩
  | argument :: value :: rest => by
    rcases accepted_or_failure argument value rest with accepted | failed
    · obtain ⟨pairs, others, same, earlier, ends⟩ := divided rest
      refine ⟨(argument, value) :: pairs, others, by rw [same]; rfl, ?_, ends⟩
      exact List.forall_mem_cons.mpr ⟨accepted, earlier⟩
    · exact ⟨[], argument :: value :: rest, rfl, nofun, .inr failed⟩

/-- No word switches both ways. -/
theorem isSwitch_rightUnique : Relator.RightUnique IsSwitch :=
  fun _ _ _ one other => Except.ok.inj ((readSwitch_ok.mpr one).symm.trans (readSwitch_ok.mpr other))

/-- An optional word means at most one thing if every word does. -/
theorem rel_rightUnique {Value : Type} {means : String → Value → Prop} (unique : Relator.RightUnique means) :
    Relator.RightUnique (Option.Rel means) := by
  rintro text one other (means | -) (means' | -)
  · exact congrArg some (unique means means')
  · rfl

/-- The values of the flags leave no choice. -/
theorem reads_unique {texts : Flag → Option String} (reads : ∀ flag : Flag, flag.Reads options (texts flag))
    (reads' : ∀ flag : Flag, flag.Reads after (texts flag)) : options = after := by
  have config : options.config = after.config := (reads .config).trans (reads' .config).symm
  have fixture : options.fixture = after.fixture := (reads .fixture).trans (reads' .fixture).symm
  have ticks : options.ticks = after.ticks :=
    rel_rightUnique isCount_rightUnique (reads .ticks) (reads' .ticks)
  have scripts : options.scriptRoot = after.scriptRoot := (reads .scripts).trans (reads' .scripts).symm
  have hotReload : options.hotReload = after.hotReload :=
    rel_rightUnique isSwitch_rightUnique (reads .hotReload) (reads' .hotReload)
  have log : options.logLevel = after.logLevel := (reads .log).trans (reads' .log).symm
  cases options
  cases after
  exact (Options.mk.injEq ..).mpr ⟨config, fixture, ticks, scripts, hotReload, log⟩

end Runs

section Grammar

variable {arguments : List String}

/-- The command line is taken if it is made of pairs that are, and only then. -/
theorem parse_ok : parse arguments = .ok options ↔
    ∃ pairs, arguments.tail = spelled pairs ∧ (∀ pair ∈ pairs, Accepted pair) ∧ Holds pairs options := by
  constructor
  · intro parsed
    obtain ⟨pairs, rest, same, accepted, rfl | ⟨error, failure⟩⟩ := divided arguments.tail
    · obtain ⟨other, holds, read⟩ := parsePairs_spelled accepted []
      rw [parse, same, read] at parsed
      cases parsed
      exact ⟨pairs, by rw [same, List.append_nil], accepted, holds⟩
    · obtain ⟨other, -, read⟩ := parsePairs_spelled accepted rest
      rw [parse, same, read, parsePairs_failure failure] at parsed
      cases parsed
  · rintro ⟨pairs, same, accepted, holds⟩
    obtain ⟨other, holds', read⟩ := parsePairs_spelled accepted []
    rw [List.append_nil] at read
    rw [parse, same, read, reads_unique holds holds', parsePairs]

/-- A command line is refused exactly if it fails behind pairs that are accepted. -/
theorem parse_error : parse arguments = .error error ↔
    ∃ pairs rest, arguments.tail = spelled pairs ++ rest ∧ (∀ pair ∈ pairs, Accepted pair) ∧
      Failure rest error := by
  constructor
  · intro failed
    obtain ⟨pairs, rest, same, accepted, ends⟩ := divided arguments.tail
    obtain ⟨options, -, read⟩ := parsePairs_spelled accepted rest
    rw [parse, same, read] at failed
    rcases ends with rfl | ⟨other, failure⟩
    · cases failed
    · rw [parsePairs_failure failure] at failed
      cases failed
      exact ⟨pairs, rest, same, accepted, failure⟩
  · rintro ⟨pairs, rest, same, accepted, failure⟩
    obtain ⟨options, -, read⟩ := parsePairs_spelled accepted rest
    rw [parse, same, read, parsePairs_failure failure]

/-- Only the last value of each flag matters. -/
theorem holds_congr {others : List Pair} (same : ∀ flag, last pairs flag = last others flag)
    (holds : Holds pairs options) : Holds others options :=
  fun flag => same flag ▸ holds flag

/-- The arguments after the first are taken if and only if they are pairs of a flag and a value that it takes. Then
every field holds the last value of its flag, and nothing else counts. Otherwise the first pair that is wrong is
reported, whatever comes after it. -/
theorem parse_grammar (arguments : List String) :
    (∀ options, parse arguments = .ok options ↔
      ∃ pairs, arguments.tail = spelled pairs ∧ (∀ pair ∈ pairs, Accepted pair) ∧ Holds pairs options) ∧
    ((∃ options, parse arguments = .ok options) ↔
      ∃ pairs, arguments.tail = spelled pairs ∧ ∀ pair ∈ pairs, Accepted pair) ∧
    (∀ pairs others program, arguments.tail = spelled pairs → (∀ pair ∈ pairs, Accepted pair) →
      (∀ pair ∈ others, Accepted pair) → (∀ flag, last pairs flag = last others flag) →
        parse (program :: spelled others) = parse arguments) ∧
    ∀ error, parse arguments = .error error ↔
      ∃ pairs rest, arguments.tail = spelled pairs ++ rest ∧ (∀ pair ∈ pairs, Accepted pair) ∧
        Failure rest error := by
  -- Accepted pairs hold some options, namely those that they are parsed to.
  have taken {pairs : List Pair} (accepted : ∀ pair ∈ pairs, Accepted pair) : ∃ options, Holds pairs options := by
    obtain ⟨options, holds, -⟩ := parsePairs_spelled accepted []
    exact ⟨options, holds⟩
  refine ⟨fun options => parse_ok, ⟨?_, ?_⟩, ?_, fun error => parse_error⟩
  · rintro ⟨options, parsed⟩
    obtain ⟨pairs, same, accepted, -⟩ := parse_ok.mp parsed
    exact ⟨pairs, same, accepted⟩
  · rintro ⟨pairs, same, accepted⟩
    obtain ⟨options, holds⟩ := taken accepted
    exact ⟨options, parse_ok.mpr ⟨pairs, same, accepted, holds⟩⟩
  · intro pairs others program same accepted accepted' alike
    obtain ⟨options, holds⟩ := taken accepted
    rw [parse_ok.mpr ⟨pairs, same, accepted, holds⟩]
    exact parse_ok.mpr ⟨others, rfl, accepted', holds_congr alike holds⟩

/-- A value may look like a flag, and a later value takes the place of an earlier one. -/
example : (parse ["app", "--log", "--config", "--ticks", "3", "--hot-reload", "oN", "--ticks", "+9"]).toOption =
    some ⟨none, none, some 9, none, some true, some "--config"⟩ := by
  decide

end Grammar

end ScriptHost.CommandLine
