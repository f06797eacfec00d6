import Mathlib.Data.List.Basic
import Mathlib.Tactic.Common

/-! Text between two marks, in which a doubled mark stands for one: quoting, reading back, and the
pieces that a longer text falls into. -/

namespace Quoted

variable {α : Type} [DecidableEq α]

def quote (mark : α) (text : List α) : List α :=
  mark :: (text.flatMap (fun c => if c = mark then [mark, mark] else [c]) ++ [mark])

def readBody (mark : α) : List α → Option (List α × List α)
  | [] => none
  | [c] => if c = mark then some ([], []) else none
  | c :: next :: rest =>
      if c = mark then
        if next = mark then (readBody mark rest).map (fun read => (mark :: read.1, read.2))
        else some ([], next :: rest)
      else (readBody mark (next :: rest)).map (fun read => (c :: read.1, read.2))

def read (mark : α) : List α → Option (List α × List α)
  | [] => none
  | c :: rest => if c = mark then readBody mark rest else none

section Read

variable {mark : α} {text other rest : List α}

theorem readBody_cons {c : α} (differs : c ≠ mark) (rest : List α) :
    readBody mark (c :: rest) = (readBody mark rest).map (fun read => (c :: read.1, read.2)) := by
  cases rest with
  | nil => simp only [readBody, if_neg differs, Option.map_none]
  | cons next rest => rw [readBody, if_neg differs]

theorem readBody_close (boundary : rest.head? ≠ some mark) :
    readBody mark (mark :: rest) = some ([], rest) := by
  cases rest with
  | nil => rw [readBody, if_pos rfl]
  | cons next rest =>
      rw [readBody, if_pos rfl, if_neg]
      rintro rfl
      exact boundary rfl

theorem read_quote (boundary : rest.head? ≠ some mark) :
    read mark (quote mark text ++ rest) = some (text, rest) := by
  rw [quote, List.cons_append, read, if_pos rfl, List.append_assoc, List.singleton_append]
  induction text with
  | nil => exact readBody_close boundary
  | cons c text ih =>
      rw [List.flatMap_cons]
      split
      · rename_i same
        simp only [List.cons_append, List.nil_append, readBody, if_true, ih, Option.map_some, same]
      · rename_i differs
        rw [List.singleton_append, List.cons_append, readBody_cons differs, ih, Option.map_some]

theorem quote_injective : Function.Injective (quote mark) := by
  have whole : ∀ text, read mark (quote mark text ++ []) = some (text, []) :=
    fun text => read_quote (List.head?_nil ▸ nofun)
  intro text other same
  have first := whole text
  rw [same, whole other] at first
  exact (congrArg Prod.fst (Option.some.inj first)).symm

end Read

inductive Piece (α : Type) where
  | plain (c : α)
  | quoted (mark : α) (text : List α)
  deriving DecidableEq, Repr

/-- Where a scan stands; `closing` is behind a mark that closes the quotation unless it is
doubled. -/
inductive Scan (α : Type) where
  | outside
  | inside (mark : α) (text : List α)
  | closing (mark : α) (text : List α)
  deriving DecidableEq, Repr

def emit (piece : Piece α) (later : Scan α × List (Piece α)) : Scan α × List (Piece α) :=
  (later.1, piece :: later.2)

variable (isMark : α → Bool)

def scan : Scan α → List α → Scan α × List (Piece α)
  | s, [] => (s, [])
  | .outside, c :: rest =>
      if isMark c then scan (.inside c []) rest else emit (.plain c) (scan .outside rest)
  | .inside mark text, c :: rest =>
      if c = mark then scan (.closing mark text) rest else scan (.inside mark (text ++ [c])) rest
  | .closing mark text, c :: rest =>
      if c = mark then scan (.inside mark (text ++ [mark])) rest
      else emit (.quoted mark text)
        (if isMark c then scan (.inside c []) rest else emit (.plain c) (scan .outside rest))

def pieces (text : List α) : Option (List (Piece α)) :=
  match scan isMark .outside text with
  | (.outside, found) => some found
  | (.closing mark quoted, found) => some (found ++ [.quoted mark quoted])
  | (.inside _ _, _) => none

section Scan

variable {isMark : α → Bool} {mark : α}

theorem scan_append (s : Scan α) (front back : List α) :
    scan isMark s (front ++ back) =
      ((scan isMark (scan isMark s front).1 back).1,
        (scan isMark s front).2 ++ (scan isMark (scan isMark s front).1 back).2) := by
  induction front generalizing s with
  | nil => rfl
  | cons c front ih =>
      rw [List.cons_append]
      cases s with
      | outside =>
          simp only [scan]
          split <;> simp only [ih, emit, List.cons_append]
      | inside mark text =>
          simp only [scan]
          split <;> simp only [ih]
      | closing mark text =>
          simp only [scan]
          split
          · simp only [ih]
          · split <;> simp only [ih, emit, List.cons_append]

theorem scan_double (before text : List α) :
    scan isMark (.inside mark before)
        (text.flatMap (fun c => if c = mark then [mark, mark] else [c])) =
      (.inside mark (before ++ text), []) := by
  induction text generalizing before with
  | nil => rw [List.flatMap_nil, scan, List.append_nil]
  | cons c text ih =>
      have grown : before ++ c :: text = (before ++ [c]) ++ text := by
        rw [List.append_assoc, List.singleton_append]
      rw [List.flatMap_cons, grown]
      split
      · rename_i same
        simp only [List.cons_append, List.nil_append, scan, if_true, same, ih]
      · rename_i differs
        simp only [List.singleton_append, scan, if_neg differs, ih]

theorem scan_quote (marked : isMark mark = true) (text : List α) :
    scan isMark .outside (quote mark text) = (.closing mark text, []) := by
  rw [quote, scan, if_pos marked, scan_append, scan_double]
  simp only [scan, if_true, List.nil_append]

theorem scan_closing {c : α} (differs : c ≠ mark) (text rest : List α) :
    scan isMark (.closing mark text) (c :: rest) =
      emit (.quoted mark text) (scan isMark .outside (c :: rest)) := by
  simp only [scan, if_neg differs]

end Scan

end Quoted
