import Mathlib.Data.List.Basic

/-!
# The command line

`util/args.cc`.  A command line is a sequence of options; an option is one word, or a word and
the path after it, and that path may look like an option.  `command_line_exact` says which
lines are accepted, what they mean, and which word the message about any other is about.
-/

namespace EvGrpc

/-- `ArgvResult` -/
structure ArgvResult where
  configPath : String := "./config.json"
  helpRequested : Bool := false
  deriving DecidableEq

def asksHelp (a : String) : Bool := a == "--help" || a == "-h"

def asksConfig (a : String) : Bool := a == "--config" || a == "-c"

/-- The loop in `ParseArgs`, from the first of these words on. -/
def parseWords (r : ArgvResult) : List String → Except String ArgvResult
  | [] => .ok r
  | a :: rest =>
      if asksHelp a then parseWords { r with helpRequested := true } rest
      else if asksConfig a then
        match rest with
        | [] => .error ("missing value for " ++ a)
        | path :: rest => parseWords { r with configPath := path } rest
      else .error ("unknown flag: " ++ a)

/-- `ParseArgs`; the first word is the name of the program. -/
def parseArgs (argv : List String) : Except String ArgvResult := parseWords {} (argv.drop 1)

/-! ## Options -/

/-- An option that is spelled out. -/
inductive Flag
  | help (a : String) (h : asksHelp a = true)
  | config (a : String) (h : asksConfig a = true) (path : String)

namespace Flag

def words : Flag → List String
  | help a _ => [a]
  | config a _ path => [a, path]

def isHelp : Flag → Bool
  | help _ _ => true
  | config _ _ _ => false

/-- The path that an option gives. -/
def path? : Flag → Option String
  | help _ _ => none
  | config _ _ path => some path

end Flag

/-- What some options mean: help if one asks for it, and the path of the last one that gives
a path. -/
def meaningOf (flags : List Flag) (r : ArgvResult) : ArgvResult where
  configPath := (flags.filterMap Flag.path?).getLast?.getD r.configPath
  helpRequested := r.helpRequested || flags.any Flag.isHelp

/-- What no option begins with: the last word of a line if it needs another, or a word that is
none, and the message about it. -/
inductive Malformed : List String → String → Prop
  | missing {a : String} (h : asksConfig a = true) : Malformed [a] ("missing value for " ++ a)
  | unknown {a : String} (hhelp : asksHelp a = false) (hconfig : asksConfig a = false)
      (rest : List String) : Malformed (a :: rest) ("unknown flag: " ++ a)

section Parse
variable {r : ArgvResult} {rest : List String} {e : String}

theorem asksHelp_of_asksConfig {a : String} (h : asksConfig a = true) : asksHelp a = false := by
  simp only [asksConfig, Bool.or_eq_true, beq_iff_eq] at h
  rcases h with rfl | rfl <;> rfl

@[simp] theorem meaningOf_nil (r : ArgvResult) : meaningOf [] r = r := by simp [meaningOf]

/-- The first option is done before the others. -/
theorem meaningOf_cons (f : Flag) (flags : List Flag) (r : ArgvResult) :
    meaningOf (f :: flags) r = meaningOf flags (meaningOf [f] r) := by
  cases f with
  | help a h => simp [meaningOf, Flag.path?, Flag.isHelp]
  | config a h path =>
      have hpath : (Flag.config a h path :: flags).filterMap Flag.path? =
          path :: flags.filterMap Flag.path? := rfl
      have hone : [Flag.config a h path].filterMap Flag.path? = [path] := rfl
      simp [meaningOf, hpath, hone, Flag.isHelp, List.getLast?_cons]

theorem parseWords_help {a : String} (h : asksHelp a = true) :
    parseWords r (a :: rest) = parseWords { r with helpRequested := true } rest := by
  cases rest <;> simp [parseWords, h]

theorem parseWords_config {a : String} (h : asksConfig a = true) (path : String) :
    parseWords r (a :: path :: rest) = parseWords { r with configPath := path } rest := by
  simp [parseWords, h, asksHelp_of_asksConfig h]

/-- One option is read. -/
theorem parseWords_flag (f : Flag) :
    parseWords r (f.words ++ rest) = parseWords (meaningOf [f] r) rest := by
  cases f with
  | help a h => simp [Flag.words, parseWords_help h, meaningOf, Flag.path?, Flag.isHelp]
  | config a h path => simp [Flag.words, parseWords_config h, meaningOf, Flag.path?, Flag.isHelp]

/-- All options are read. -/
theorem parseWords_flags (flags : List Flag) (r : ArgvResult) (rest : List String) :
    parseWords r (flags.flatMap Flag.words ++ rest) = parseWords (meaningOf flags r) rest := by
  induction flags generalizing r with
  | nil => simp
  | cons f flags ih =>
      rw [List.flatMap_cons, List.append_assoc, parseWords_flag, ih, ← meaningOf_cons]

theorem Malformed.parseWords_eq (h : Malformed rest e) (r : ArgvResult) :
    parseWords r rest = .error e := by
  cases h with
  | missing h => simp [parseWords, h, asksHelp_of_asksConfig h]
  | unknown hhelp hconfig rest => cases rest <;> simp [parseWords, hhelp, hconfig]

/-- Every line is a sequence of options, up to its end or to what begins none. -/
theorem exists_flags (r : ArgvResult) (words : List String) : ∃ flags : List Flag,
    words = flags.flatMap Flag.words ∨
      ∃ rest e, Malformed rest e ∧ words = flags.flatMap Flag.words ++ rest := by
  fun_induction parseWords r words with
  | case1 => exact ⟨[], .inl rfl⟩
  | case2 r a rest hhelp ih =>
      obtain ⟨flags, h⟩ := ih
      refine ⟨.help a hhelp :: flags, ?_⟩
      simpa [Flag.words] using h
  | case3 r a hhelp hconfig => exact ⟨[], .inr ⟨[a], _, .missing hconfig, rfl⟩⟩
  | case4 r a hhelp hconfig path rest ih =>
      obtain ⟨flags, h⟩ := ih
      refine ⟨.config a hconfig path :: flags, ?_⟩
      simpa [Flag.words] using h
  | case5 r a rest hhelp hconfig =>
      rw [Bool.not_eq_true] at hhelp hconfig
      exact ⟨[], .inr ⟨a :: rest, _, .unknown hhelp hconfig rest, rfl⟩⟩

theorem parseArgs_of_flags (name : String) (flags : List Flag) :
    parseArgs (name :: flags.flatMap Flag.words) = .ok (meaningOf flags {}) := by
  have h := parseWords_flags flags {} []
  rwa [List.append_nil] at h

theorem parseArgs_of_malformed (name : String) (flags : List Flag) (h : Malformed rest e) :
    parseArgs (name :: (flags.flatMap Flag.words ++ rest)) = .error e :=
  (parseWords_flags flags {} rest).trans (h.parseWords_eq _)

end Parse

/-- **The command line is read exactly.**  It is accepted if and only if it is a sequence of
options, and then it asks for help if one of them does and names the path of the last one that
names one.  Any other line is refused, because of the first word that begins no option. -/
theorem command_line_exact (name : String) (words : List String) :
    (∀ r, parseArgs (name :: words) = .ok r ↔
      ∃ flags : List Flag, words = flags.flatMap Flag.words ∧ r = meaningOf flags {}) ∧
    ∀ e, parseArgs (name :: words) = .error e ↔
      ∃ (flags : List Flag) (rest : List String), words = flags.flatMap Flag.words ++ rest ∧
        Malformed rest e := by
  constructor
  · intro r
    constructor
    · intro h
      obtain ⟨flags, hwords | ⟨rest, e, hmalformed, hwords⟩⟩ := exists_flags {} words
      · rw [hwords, parseArgs_of_flags] at h
        cases h
        exact ⟨flags, hwords, rfl⟩
      · rw [hwords, parseArgs_of_malformed name flags hmalformed] at h
        cases h
    · intro ⟨flags, hwords, hr⟩
      rw [hwords, hr, parseArgs_of_flags]
  · intro e
    constructor
    · intro h
      obtain ⟨flags, hwords | ⟨rest, e', hmalformed, hwords⟩⟩ := exists_flags {} words
      · rw [hwords, parseArgs_of_flags] at h
        cases h
      · rw [hwords, parseArgs_of_malformed name flags hmalformed] at h
        cases h
        exact ⟨flags, rest, hwords, hmalformed⟩
    · intro ⟨flags, rest, hwords, hmalformed⟩
      rw [hwords, parseArgs_of_malformed name flags hmalformed]

/-- The path after `-c` may look like an option. -/
example : parseArgs ["evgrpc", "-c", "--help", "--config", "a.json"] =
    .ok ⟨"a.json", false⟩ := by rfl

end EvGrpc
