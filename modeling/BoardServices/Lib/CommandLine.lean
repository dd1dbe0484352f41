import BoardServices.Lib.Strings

/-!
# Command lines

`getopt_long` of the GNU C library in its default mode: arguments that are no
options are skipped, `--` ends the options, short options may stand in one
argument, a long option may be cut short as long as it stays unambiguous. The
result is the list of what the successive calls return. A setting that each
option may overwrite ends up with the value written last.
-/

namespace BoardServices.Lib.CommandLine
open Strings

structure OptionSpec where
  val : Char
  name : CString
  hasArg : Bool
  deriving DecidableEq, Repr

inductive OptResult where
  | flag (val : Char)
  | value (val : Char) (optarg : CString)
  | invalid
  deriving DecidableEq, Repr

/-- What one argument holds: options, of which the last may still wait for its
own argument. -/
inductive Element where
  | nonOption
  | endOfOptions
  | options (results : List OptResult) (waiting : Option Char)

def shortOptions (specs : List OptionSpec) : List Char → List OptResult × Option Char
  | [] => ([], none)
  | c :: cs =>
    match specs.find? (·.val == c) with
    | none => (.invalid :: (shortOptions specs cs).1, (shortOptions specs cs).2)
    | some o =>
      if o.hasArg then
        if cs = [] then ([], some c) else ([.value c cs], none)
      else (.flag c :: (shortOptions specs cs).1, (shortOptions specs cs).2)

/-- The long option a name stands for: its own, or the only one it begins. -/
def longOption (specs : List OptionSpec) (name : CString) : Option OptionSpec :=
  match specs.find? (·.name == name) with
  | some o => some o
  | none =>
    match specs.filter fun o => name.isPrefixOf o.name with
    | [o] => some o
    | _ => none

def longElement (specs : List OptionSpec) (text : CString) : List OptResult × Option Char :=
  let name := text.takeWhile (· != '=')
  let value := text.dropWhile (· != '=')
  match longOption specs name with
  | none => ([.invalid], none)
  | some o =>
    match value with
    | [] => if o.hasArg then ([], some o.val) else ([.flag o.val], none)
    | _ :: arg => if o.hasArg then ([.value o.val arg], none) else ([.invalid], none)

def element (specs : List OptionSpec) (arg : CString) : Element :=
  match arg with
  | ['-', '-'] => .endOfOptions
  | '-' :: '-' :: text => .options (longElement specs text).1 (longElement specs text).2
  | '-' :: c :: cs => .options (shortOptions specs (c :: cs)).1 (shortOptions specs (c :: cs)).2
  | _ => .nonOption

/-- The calls of `getopt_long` up to the one that returns -1, with an option that
waits for its argument. -/
def calls (specs : List OptionSpec) : Option Char → List CString → List OptResult
  | none, [] => []
  | some _, [] => [.invalid]
  | some c, arg :: args => .value c arg :: calls specs none args
  | none, arg :: args =>
    match element specs arg with
    | .nonOption => calls specs none args
    | .endOfOptions => []
    | .options results waiting => results ++ calls specs waiting args

def getoptLong (specs : List OptionSpec) (args : List CString) : List OptResult :=
  calls specs none args

/-! ### The value written last -/

section LastWrite
variable {α β : Type*} (write : α → Option β)

def lastWrite (l : List α) : Option β := (l.filterMap write).getLast?

theorem lastWrite_cons (x : α) (l : List α) :
    lastWrite write (x :: l) = (lastWrite write l).or (write x) := by
  unfold lastWrite
  cases hx : write x with
  | none => simp [List.filterMap_cons_none hx]
  | some v =>
    rw [List.filterMap_cons_some hx, List.getLast?_cons]
    cases (l.filterMap write).getLast? with
    | none => rfl
    | some w => rfl

theorem foldl_lastWrite (l : List α) (init : β) :
    l.foldl (fun v x => (write x).getD v) init = (lastWrite write l).getD init := by
  induction l generalizing init with
  | nil => rfl
  | cons x l ih =>
    rw [List.foldl_cons, ih, lastWrite_cons]
    cases lastWrite write l <;> rfl

theorem exists_of_lastWrite {l : List α} {v : β} (h : lastWrite write l = some v) :
    ∃ x ∈ l, write x = some v :=
  List.mem_filterMap.mp (List.mem_of_getLast? h)

theorem lastWrite_eq_none {l : List α} (h : lastWrite write l = none) : ∀ x ∈ l, write x = none :=
  List.filterMap_eq_nil_iff.mp (List.getLast?_eq_none_iff.mp h)

end LastWrite

end BoardServices.Lib.CommandLine
