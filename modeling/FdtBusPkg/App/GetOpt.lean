import FdtBusPkg.Base
import FdtBusPkg.Library.Loop
import Mathlib.Data.List.GetD

/-!
The command lines of the applications. `GetOpt` gives one option at a time, and an
application calls it until the options end. Every command line has exactly one reading
as options, and the calls give that one; what is left are the operands.
-/
namespace FdtBusPkg

abbrev Char16 := BitVec 16

/-- A string before its terminator, which is none of its characters. -/
@[ext]
structure Char16String where
  chars : List Char16
  noNul : 0 ∉ chars
  deriving DecidableEq

namespace Char16String

/-- The character at an index, the terminator after the last one. -/
def charAt (s : Char16String) (i : Nat) : Char16 := s.chars.getD i 0

def after (s : Char16String) (i : Nat) : Char16String where
  chars := s.chars.drop i
  noNul h := s.noNul (List.mem_of_mem_drop h)

end Char16String

def DASH : Char16 := 0x2D

structure GetOptContext where
  opt : Char16
  optArg : Option Char16String
  optIndex : Nat
  deriving DecidableEq

def INIT_GET_OPT_CONTEXT : GetOptContext := ⟨0, none, 1⟩

/-- `EFI_SUCCESS` or `EFI_END_OF_MEDIA`. -/
inductive GetOptStatus
  | success
  | endOfMedia
  deriving DecidableEq

/-- Some character of `OptionsWithArgs` is the option. -/
def takesArg (optionsWithArgs : Option Char16String) (opt : Char16) : Bool :=
  match optionsWithArgs with
  | none => false
  | some options => options.chars.contains opt

/-- `OptArg` after an option that takes an argument, and how many words it took. -/
def optArgument (argv : List Char16String) (optIndex : Nat) (word : Char16String) :
    Option Char16String × Nat :=
  if word.charAt 2 ≠ 0 then
    (some (word.after 2), 1)
  else
    match argv[optIndex + 1]? with
    | none => (none, 1)
    | some next => if next.charAt 0 ≠ DASH then (some next, 2) else (none, 1)

def getOpt (argv : List Char16String) (optionsWithArgs : Option Char16String)
    (context : GetOptContext) : GetOptStatus × GetOptContext :=
  match argv[context.optIndex]? with
  | none => (.endOfMedia, context)
  | some word =>
    if word.charAt 0 ≠ DASH then
      (.endOfMedia, context)
    else if word.charAt 1 = 0 then
      (.endOfMedia, { context with optIndex := context.optIndex + 1 })
    else
      let opt := word.charAt 1
      if takesArg optionsWithArgs opt then
        let (optArg, skipCount) := optArgument argv context.optIndex word
        (.success, ⟨opt, optArg, context.optIndex + skipCount⟩)
      else
        (.success, ⟨opt, context.optArg, context.optIndex + 1⟩)

/-- What an application sees of an option: its character and `OptArg`. -/
abbrev SeenOption := Char16 × Option Char16String

/-- The loop of the applications, with the options seen so far. -/
def getOptBody (argv : List Char16String) (optionsWithArgs : Option Char16String)
    (s : GetOptContext × List SeenOption) :
    Loop.Step (GetOptContext × List SeenOption) (GetOptContext × List SeenOption) :=
  match getOpt argv optionsWithArgs s.1 with
  | (.endOfMedia, context) => .exit (context, s.2)
  | (.success, context) => .next (context, s.2 ++ [(context.opt, context.optArg)])

/-- `Reads takes optArg words seen operands`: after an earlier `optArg`, the words are the
options `seen` and then the operands. -/
inductive Reads (takes : Char16 → Bool) :
    Option Char16String → List Char16String → List SeenOption → List Char16String → Prop
  | nil (optArg) : Reads takes optArg [] [] []
  | operand (optArg) (word : Char16String) (rest) (h : word.chars.head? ≠ some DASH) :
      Reads takes optArg (word :: rest) [] (word :: rest)
  | loneDash (optArg) (word : Char16String) (rest) (h : word.chars = [DASH]) :
      Reads takes optArg (word :: rest) [] rest
  | flag (optArg) (word : Char16String) (opt ignored rest seen operands)
      (h : word.chars = DASH :: opt :: ignored) (htakes : takes opt = false)
      (hrest : Reads takes optArg rest seen operands) :
      Reads takes optArg (word :: rest) ((opt, optArg) :: seen) operands
  | attached (optArg) (word arg : Char16String) (opt rest seen operands)
      (h : word.chars = DASH :: opt :: arg.chars) (hne : arg.chars ≠ [])
      (htakes : takes opt = true) (hrest : Reads takes (some arg) rest seen operands) :
      Reads takes optArg (word :: rest) ((opt, some arg) :: seen) operands
  | separate (optArg) (word arg : Char16String) (opt rest seen operands)
      (h : word.chars = [DASH, opt]) (harg : arg.chars.head? ≠ some DASH)
      (htakes : takes opt = true) (hrest : Reads takes (some arg) rest seen operands) :
      Reads takes optArg (word :: arg :: rest) ((opt, some arg) :: seen) operands
  | missing (optArg) (word : Char16String) (opt rest seen operands)
      (h : word.chars = [DASH, opt])
      (hnext : ∀ next, rest.head? = some next → next.chars.head? = some DASH)
      (htakes : takes opt = true) (hrest : Reads takes none rest seen operands) :
      Reads takes optArg (word :: rest) ((opt, none) :: seen) operands

section Readings

variable {takes : Char16 → Bool} {optArg : Option Char16String} {word : Char16String}
  {rest operands : List Char16String} {seen : List SeenOption}

theorem reads_nil_iff : Reads takes optArg [] seen operands ↔ seen = [] ∧ operands = [] := by
  constructor
  · intro h
    cases h
    exact ⟨rfl, rfl⟩
  · rintro ⟨rfl, rfl⟩
    exact .nil optArg

theorem reads_operand_iff (hword : word.chars.head? ≠ some DASH) :
    Reads takes optArg (word :: rest) seen operands ↔ seen = [] ∧ operands = word :: rest := by
  constructor
  · intro h
    cases h with
    | operand => exact ⟨rfl, rfl⟩
    | _ => simp_all
  · rintro ⟨rfl, rfl⟩
    exact .operand optArg word rest hword

theorem reads_loneDash_iff (hword : word.chars = [DASH]) :
    Reads takes optArg (word :: rest) seen operands ↔ seen = [] ∧ operands = rest := by
  constructor
  · intro h
    cases h with
    | loneDash => exact ⟨rfl, rfl⟩
    | _ => simp_all
  · rintro ⟨rfl, rfl⟩
    exact .loneDash optArg word operands hword

variable {opt : Char16}

theorem reads_flag_iff {ignored : List Char16} (hword : word.chars = DASH :: opt :: ignored)
    (htakes : takes opt = false) :
    Reads takes optArg (word :: rest) seen operands ↔
      ∃ later, seen = (opt, optArg) :: later ∧ Reads takes optArg rest later operands := by
  constructor
  · intro h
    cases h <;> simp_all
  · rintro ⟨later, rfl, hrest⟩
    exact .flag optArg word opt ignored rest later operands hword htakes hrest

theorem reads_attached_iff {arg : Char16String} (hword : word.chars = DASH :: opt :: arg.chars)
    (hne : arg.chars ≠ []) (htakes : takes opt = true) :
    Reads takes optArg (word :: rest) seen operands ↔
      ∃ later, seen = (opt, some arg) :: later ∧
        Reads takes (some arg) rest later operands := by
  constructor
  · intro h
    cases h with
    | attached _ _ arg' _ _ later _ h' _ _ hrest =>
        have hsame : arg' = arg := by
          ext1
          simp_all
        simp_all
    | _ => simp_all
  · rintro ⟨later, rfl, hrest⟩
    exact .attached optArg word arg opt rest later operands hword hne htakes hrest

theorem reads_separate_iff {arg : Char16String} (hword : word.chars = [DASH, opt])
    (harg : arg.chars.head? ≠ some DASH) (htakes : takes opt = true) :
    Reads takes optArg (word :: arg :: rest) seen operands ↔
      ∃ later, seen = (opt, some arg) :: later ∧
        Reads takes (some arg) rest later operands := by
  constructor
  · intro h
    cases h <;> simp_all
  · rintro ⟨later, rfl, hrest⟩
    exact .separate optArg word arg opt rest later operands hword harg htakes hrest

theorem reads_missing_iff (hword : word.chars = [DASH, opt])
    (hnext : ∀ next, rest.head? = some next → next.chars.head? = some DASH)
    (htakes : takes opt = true) :
    Reads takes optArg (word :: rest) seen operands ↔
      ∃ later, seen = (opt, none) :: later ∧ Reads takes none rest later operands := by
  constructor
  · intro h
    cases h <;> simp_all
  · rintro ⟨later, rfl, hrest⟩
    exact .missing optArg word opt rest later operands hword hnext htakes hrest

end Readings

section Strings

variable (s : Char16String)

theorem charAt_zero_iff : s.charAt 0 = DASH ↔ s.chars.head? = some DASH := by
  rw [Char16String.charAt]
  cases s.chars with
  | nil => simp [DASH]
  | cons c chars => simp

theorem charAt_eq_zero_iff (i : Nat) : s.charAt i = 0 ↔ s.chars.length ≤ i := by
  rw [Char16String.charAt]
  constructor
  · intro h
    by_contra hlt
    rw [Nat.not_le] at hlt
    rw [List.getD_eq_getElem _ _ hlt] at h
    exact s.noNul (h ▸ List.getElem_mem hlt)
  · intro h
    exact List.getD_eq_default _ _ h

end Strings

section Loop

variable (argv : List Char16String) (optionsWithArgs : Option Char16String)

/-- A call that ends the options leaves only operands; one that does not has read the
first option. -/
inductive StepReads (context : GetOptContext) (seen : List SeenOption) : Prop
  | ends (after : GetOptContext)
      (hbody : getOptBody argv optionsWithArgs (context, seen) = .exit (after, seen))
      (hle : after.optIndex ≤ argv.length)
      (hreads : ∀ later operands,
        Reads (takesArg optionsWithArgs) context.optArg (argv.drop context.optIndex) later
          operands ↔ later = [] ∧ operands = argv.drop after.optIndex)
  | option (after : GetOptContext)
      (hbody : getOptBody argv optionsWithArgs (context, seen) =
        .next (after, seen ++ [(after.opt, after.optArg)]))
      (hlt : context.optIndex < after.optIndex)
      (hle : after.optIndex ≤ argv.length)
      (hreads : ∀ later operands,
        Reads (takesArg optionsWithArgs) context.optArg (argv.drop context.optIndex) later
          operands ↔ ∃ others, later = (after.opt, after.optArg) :: others ∧
            Reads (takesArg optionsWithArgs) after.optArg (argv.drop after.optIndex) others
              operands)

variable {argv optionsWithArgs} {context : GetOptContext} {seen : List SeenOption}
  {word : Char16String}

theorem drop_eq_cons {i : Nat} (hword : argv[i]? = some word) :
    argv.drop i = word :: argv.drop (i + 1) := by
  obtain ⟨hi, hword⟩ := List.getElem?_eq_some_iff.mp hword
  rw [List.drop_eq_getElem_cons hi, hword]

theorem getOpt_option (hword : argv[context.optIndex]? = some word) {opt : Char16}
    {more : List Char16} (hchars : word.chars = DASH :: opt :: more) (hopt : opt ≠ 0) :
    getOpt argv optionsWithArgs context =
      if takesArg optionsWithArgs opt then
        (.success, ⟨opt, (optArgument argv context.optIndex word).1,
          context.optIndex + (optArgument argv context.optIndex word).2⟩)
      else
        (.success, ⟨opt, context.optArg, context.optIndex + 1⟩) := by
  have hdash : word.charAt 0 = DASH := by rw [Char16String.charAt, hchars]; rfl
  have hsecond : word.charAt 1 = opt := by rw [Char16String.charAt, hchars]; rfl
  rw [getOpt, hword]
  dsimp only
  rw [if_neg (not_not_intro hdash), hsecond, if_neg hopt]

theorem stepReads_flag (hword : argv[context.optIndex]? = some word) {opt : Char16}
    {ignored : List Char16} (hchars : word.chars = DASH :: opt :: ignored) (hopt : opt ≠ 0)
    (htakes : takesArg optionsWithArgs opt = false) :
    StepReads argv optionsWithArgs context seen := by
  have hlt := (List.getElem?_eq_some_iff.mp hword).1
  refine .option ⟨opt, context.optArg, context.optIndex + 1⟩ ?_ (Nat.lt_succ_self _) hlt ?_
  · rw [getOptBody, getOpt_option hword hchars hopt, htakes]
    rfl
  · intro later operands
    rw [drop_eq_cons hword]
    exact reads_flag_iff hchars htakes

theorem stepReads_argument (hword : argv[context.optIndex]? = some word) {opt : Char16}
    {more : List Char16} (hchars : word.chars = DASH :: opt :: more) (hopt : opt ≠ 0)
    (htakes : takesArg optionsWithArgs opt = true) :
    StepReads argv optionsWithArgs context seen := by
  have hlt := (List.getElem?_eq_some_iff.mp hword).1
  have hcall : getOptBody argv optionsWithArgs (context, seen) =
      let argument := optArgument argv context.optIndex word
      .next (⟨opt, argument.1, context.optIndex + argument.2⟩,
        seen ++ [(opt, argument.1)]) := by
    rw [getOptBody, getOpt_option hword hchars hopt, htakes]
    rfl
  have hend := charAt_eq_zero_iff word 2
  rw [hchars] at hend
  rcases more with - | ⟨c, more⟩
  · have hnone : word.charAt 2 = 0 := hend.mpr (Nat.le_refl _)
    rcases hnext : argv[context.optIndex + 1]? with - | next
    · have hargument : optArgument argv context.optIndex word = (none, 1) := by
        rw [optArgument, if_neg (not_not_intro hnone), hnext]
      have hrest : argv.drop (context.optIndex + 1) = [] :=
        List.drop_eq_nil_of_le (List.getElem?_eq_none_iff.mp hnext)
      rw [hargument] at hcall
      refine .option _ hcall (Nat.lt_succ_self _) hlt fun later operands => ?_
      rw [drop_eq_cons hword]
      exact reads_missing_iff hchars (by simp [hrest]) htakes
    · have hrest := drop_eq_cons hnext
      by_cases hdash : next.charAt 0 = DASH
      · have hargument : optArgument argv context.optIndex word = (none, 1) := by
          rw [optArgument, if_neg (not_not_intro hnone), hnext]
          exact if_neg (not_not_intro hdash)
        rw [hargument] at hcall
        refine .option _ hcall (Nat.lt_succ_self _) hlt fun later operands => ?_
        rw [drop_eq_cons hword]
        refine reads_missing_iff hchars (fun first hfirst => ?_) htakes
        rw [hrest] at hfirst
        cases hfirst
        exact (charAt_zero_iff next).mp hdash
      · have hargument : optArgument argv context.optIndex word = (some next, 2) := by
          rw [optArgument, if_neg (not_not_intro hnone), hnext]
          exact if_pos hdash
        rw [hargument] at hcall
        refine .option _ hcall (Nat.lt_add_of_pos_right Nat.two_pos)
          (List.getElem?_eq_some_iff.mp hnext).1 fun later operands => ?_
        rw [drop_eq_cons hword, hrest]
        exact reads_separate_iff hchars (fun hhead => hdash ((charAt_zero_iff next).mpr hhead))
          htakes
  · have hsome : word.charAt 2 ≠ 0 := by
      intro hzero
      have hlength := hend.mp hzero
      simp at hlength
    have hargument : optArgument argv context.optIndex word = (some (word.after 2), 1) := by
      rw [optArgument, if_pos hsome]
    have hafter : (word.after 2).chars = c :: more := by
      exact congrArg (List.drop 2) hchars
    rw [hargument] at hcall
    refine .option _ hcall (Nat.lt_succ_self _) hlt fun later operands => ?_
    rw [drop_eq_cons hword]
    exact reads_attached_iff (by rw [hchars, hafter]) (by simp [hafter]) htakes

theorem stepReads (hle : context.optIndex ≤ argv.length) :
    StepReads argv optionsWithArgs context seen := by
  rcases hword : argv[context.optIndex]? with - | word
  · have hrest : argv.drop context.optIndex = [] :=
      List.drop_eq_nil_of_le (List.getElem?_eq_none_iff.mp hword)
    refine .ends context ?_ hle fun later operands => ?_
    · simp [getOptBody, getOpt, hword]
    · rw [hrest]
      exact reads_nil_iff
  · have hlt := (List.getElem?_eq_some_iff.mp hword).1
    have hzero := word.noNul
    by_cases hdash : word.charAt 0 = DASH
    · obtain ⟨tail, hchars⟩ := List.head?_eq_some_iff.mp ((charAt_zero_iff word).mp hdash)
      rcases tail with - | ⟨opt, more⟩
      · refine .ends { context with optIndex := context.optIndex + 1 } ?_ hlt
          fun later operands => ?_
        · simp [getOptBody, getOpt, hword, Char16String.charAt, hchars]
        · rw [drop_eq_cons hword]
          exact reads_loneDash_iff hchars
      · have hopt : opt ≠ 0 := by
          rintro rfl
          exact hzero (by simp [hchars])
        cases htakes : takesArg optionsWithArgs opt with
        | false => exact stepReads_flag hword hchars hopt htakes
        | true => exact stepReads_argument hword hchars hopt htakes
    · refine .ends context ?_ hle fun later operands => ?_
      · simp [getOptBody, getOpt, hword, hdash]
      · rw [drop_eq_cons hword]
        exact reads_operand_iff fun hhead => hdash ((charAt_zero_iff word).mpr hhead)

/-- The loop ends, and the options it has seen and the words it has left are the only
reading of the words it started at. -/
theorem getOptLoop_reads (fuel : Nat) (hle : context.optIndex ≤ argv.length)
    (hfuel : argv.length - context.optIndex < fuel) :
    ∃ after later,
      Loop.run (getOptBody argv optionsWithArgs) fuel (context, seen) =
          some (after, seen ++ later) ∧
        after.optIndex ≤ argv.length ∧
        ∀ other operands,
          Reads (takesArg optionsWithArgs) context.optArg (argv.drop context.optIndex) other
            operands ↔ other = later ∧ operands = argv.drop after.optIndex := by
  induction fuel generalizing context seen with
  | zero => exact absurd hfuel (Nat.not_lt_zero _)
  | succ fuel ih =>
      rcases @stepReads argv optionsWithArgs context seen hle with
        ⟨after, hbody, hafter, hreads⟩ | ⟨after, hbody, hlt, hafter, hreads⟩
      · refine ⟨after, [], ?_, hafter, hreads⟩
        rw [Loop.run_exit _ _ _ _ hbody, List.append_nil]
      · obtain ⟨last, later, hrun, hlast, honly⟩ :=
          @ih after (seen ++ [(after.opt, after.optArg)]) hafter (by omega)
        refine ⟨last, (after.opt, after.optArg) :: later, ?_, hlast, fun other operands => ?_⟩
        · rw [Loop.run_next _ _ _ _ hbody, hrun, List.append_assoc, List.singleton_append]
        · rw [hreads]
          simp only [honly]
          constructor
          · rintro ⟨others, rfl, rfl, rfl⟩
            exact ⟨rfl, rfl⟩
          · rintro ⟨rfl, rfl⟩
            exact ⟨later, rfl, rfl, rfl⟩

/-- No call moves `OptIndex` past the last word. -/
theorem optIndex_le_of_reaches (hle : context.optIndex ≤ argv.length)
    {s : GetOptContext × List SeenOption}
    (h : Loop.Reaches (getOptBody argv optionsWithArgs) (context, seen) s) :
    s.1.optIndex ≤ argv.length := by
  induction h with
  | refl => exact hle
  | @tail t u hreaches hstep ih =>
      obtain ⟨after, hbody, -, -⟩ | ⟨after, hbody, -, hafter, -⟩ :=
        @stepReads argv optionsWithArgs t.1 t.2 ih
      · exact nomatch hstep.symm.trans hbody
      · exact Loop.Step.next.inj (hstep.symm.trans hbody) ▸ hafter

end Loop

/-- The loop of an application stays within the words and ends, and gives the one reading of its
command line: the options with what `OptArg` was at each, and as the words from `OptIndex` on the
operands. -/
theorem getOpt_reads (program : Char16String) (arguments : List Char16String)
    (optionsWithArgs : Option Char16String) :
    (∀ s, Loop.Reaches (getOptBody (program :: arguments) optionsWithArgs)
        (INIT_GET_OPT_CONTEXT, []) s → s.1.optIndex ≤ (program :: arguments).length) ∧
    ∃ after seen,
      Loop.run (getOptBody (program :: arguments) optionsWithArgs) (arguments.length + 1)
          (INIT_GET_OPT_CONTEXT, []) = some (after, seen) ∧
        after.optIndex ≤ (program :: arguments).length ∧
        ∀ other operands,
          Reads (takesArg optionsWithArgs) none arguments other operands ↔
            other = seen ∧ operands = (program :: arguments).drop after.optIndex := by
  have hlength : INIT_GET_OPT_CONTEXT.optIndex ≤ (program :: arguments).length := by
    simp [INIT_GET_OPT_CONTEXT]
  exact ⟨fun s hs => optIndex_le_of_reaches hlength hs,
    getOptLoop_reads (arguments.length + 1) hlength (by simp [INIT_GET_OPT_CONTEXT])⟩

end FdtBusPkg
