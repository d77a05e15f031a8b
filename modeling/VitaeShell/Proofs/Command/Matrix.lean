import VitaeShell.Proofs.Command.Reply
import VitaeShell.Proofs.Number.Decimal

/-!
# The size of a matrix

`matrix` takes two numbers and brings each within its bounds. The numbers are read as binary values,
which are rounded from 53 binary digits on, far beyond the bounds, so that rounding does not show. A
number that lies beyond all binary values is none, and then both sizes are the default.

## Main results

* `wholePart?_of_writes`: the whole part of a number, as far as the bounds can tell.
* `read_matrix`: two whole numbers give a matrix of the sizes nearest to them, or else one of the
  default size if one of them is beyond the limit.
-/

namespace VitaeShell.Builtin

open Numeral (Writes)

variable {s t : String} {a b : Int}

/-- Numbers that no bounds below 53 binary digits tell apart. -/
def Alike (m n : Int) : Prop :=
  m = n ∨ (2 ^ 53 ≤ m ∧ 2 ^ 53 ≤ n) ∨ (m ≤ -2 ^ 53 ∧ n ≤ -2 ^ 53)

/-- Between bounds up to 2 ^ 53, numbers that are alike become the same. -/
theorem Alike.clamp_eq {m n low high : Int} (h : Alike m n) (hlow : -2 ^ 53 ≤ low)
    (hbounds : low ≤ high) (hhigh : high ≤ 2 ^ 53) :
    clamp low high m = min high (max low n) := by
  rw [clamp]
  obtain rfl | ⟨hm, hn⟩ | ⟨hm, hn⟩ := h <;> omega

/-- Two numbers that are equal, or both at least 2 ^ 53, are alike under the same sign. -/
theorem alike_signed {m n : Nat} (negative : Bool) (h : m = n ∨ 2 ^ 53 ≤ m ∧ 2 ^ 53 ≤ n) :
    Alike (Binary64.signed negative m) (Binary64.signed negative n) := by
  obtain rfl | ⟨hm, hn⟩ := h
  · exact .inl rfl
  · cases negative with
    | false => exact .inr (.inl (by rw [Binary64.signed_false, Binary64.signed_false]; omega))
    | true => exact .inr (.inr (by rw [Binary64.signed_true, Binary64.signed_true]; omega))

/-- A number within the range has a whole part, which differs from it only if both are longer than
53 binary digits. A number beyond the range has none. -/
theorem wholePart?_of_writes (h : Writes s a) :
    (a.natAbs < Binary64.limit ∧ ∃ m, wholePart? s = some m ∧ Alike m a) ∨
      (Binary64.limit ≤ a.natAbs ∧ wholePart? s = none) := by
  obtain ⟨negative, n, rfl, hfloat⟩ := h.exists_float?_eq
  rw [wholePart?, hfloat, Option.bind_some, Binary64.natAbs_signed]
  rcases Nat.lt_or_ge n Binary64.limit with hwithin | hbeyond
  · obtain ⟨m, hm, halike⟩ := Binary64.exists_truncate?_ofRatio negative hwithin
    exact .inl ⟨hwithin, Binary64.signed negative m, hm, alike_signed negative halike⟩
  · exact .inr ⟨hbeyond, by rw [Binary64.ofRatio_of_limit_le negative hbeyond]; rfl⟩

/-- Two whole numbers within the range are brought within the bounds. -/
theorem matrixOf_of_writes (hs : Writes s a) (ht : Writes t b) (ha : a.natAbs < Binary64.limit)
    (hb : b.natAbs < Binary64.limit) :
    matrixOf [s, t] = .matrix (min 32 (max 4 a)) (min 64 (max 8 b)) := by
  rcases wholePart?_of_writes hs with ⟨-, rows, hrows, harows⟩ | ⟨hbeyond, -⟩
  · rcases wholePart?_of_writes ht with ⟨-, columns, hcolumns, hacolumns⟩ | ⟨hbeyond, -⟩
    · simp only [matrixOf, hrows, hcolumns]
      rw [harows.clamp_eq (by decide) (by decide) (by decide),
        hacolumns.clamp_eq (by decide) (by decide) (by decide)]
    · omega
  · omega

/-- If one of two whole numbers is beyond the range, neither counts. -/
theorem matrixOf_of_limit_le (hs : Writes s a) (ht : Writes t b)
    (h : Binary64.limit ≤ a.natAbs ∨ Binary64.limit ≤ b.natAbs) :
    matrixOf [s, t] = .matrix Payload.defaultRows Payload.defaultColumns := by
  rcases wholePart?_of_writes hs with ⟨hwithin, rows, hrows, -⟩ | ⟨-, hnone⟩
  · rcases wholePart?_of_writes ht with ⟨hwithin', -⟩ | ⟨-, hnone⟩
    · omega
    · simp only [matrixOf, hrows, hnone]
  · simp only [matrixOf, hnone]

/-! ### The answer -/

/-- The command answers with the text of its matrix, in any directory. -/
theorem output_run_matrix (args : List String) (fs : FileSystem) (clipboard : Clipboard) :
    (registry.run ⟨"matrix", args⟩ fs clipboard).answer.output = (matrixOf args).encode :=
  congrArg (·.answer.output) (run_of_action_eq_ok (b := matrix) rfl)

/-- What is shown is read back, whatever the files are. -/
theorem read_encode_matrixOf (args : List String) :
    Reply.read (matrixOf args).encode = .ok (.payload (matrixOf args)) := by
  have hlegible : Entries.Legible [] := by simp [Entries.Legible, Entries.files]
  have hshows : Shows ⟨[], []⟩ matrix args (matrixOf args) := .matrix args
  exact hshows.read_encode hlegible

/-- **Two whole numbers give a matrix of the sizes nearest to them**, with a sign or none and digits
of any script, as many as one likes, short of the limit. If one of them reaches it, the matrix has
the default size. -/
theorem read_matrix (hs : Writes s a) (ht : Writes t b) (fs : FileSystem) (clipboard : Clipboard) :
    let output := (registry.run ⟨"matrix", [s, t]⟩ fs clipboard).answer.output
    let payload : Payload :=
      if a.natAbs < Binary64.limit ∧ b.natAbs < Binary64.limit then
        .matrix (min 32 (max 4 a)) (min 64 (max 8 b))
      else .matrix 12 32
    output = payload.encode ∧ Reply.read output = .ok (.payload payload) := by
  intro output payload
  have hpayload : matrixOf [s, t] = payload := by
    by_cases hwithin : a.natAbs < Binary64.limit ∧ b.natAbs < Binary64.limit
    · exact (matrixOf_of_writes hs ht hwithin.1 hwithin.2).trans (if_pos hwithin).symm
    · exact (matrixOf_of_limit_le hs ht (by omega)).trans (if_neg hwithin).symm
  have houtput : output = (matrixOf [s, t]).encode := output_run_matrix [s, t] fs clipboard
  rw [houtput, ← hpayload]
  exact ⟨rfl, read_encode_matrixOf [s, t]⟩

/-- A number below every bound, with zeros in front, and one above them in Arabic digits. -/
theorem read_matrix_scripts :
    Writes "-007" (-7) ∧ Writes "+٩٩٩" 999 ∧
      Reply.read (registry.run ⟨"matrix", ["-007", "+٩٩٩"]⟩ ⟨[], []⟩ .willing).answer.output =
        .ok (.payload (.matrix 4 64)) := by
  have hseven : Numeral.Spells ['0', '0', '7'] [0, 0, 7] := by decide
  have hmany : Numeral.Spells ['٩', '٩', '٩'] [9, 9, 9] := by decide
  have hs : Writes "-007" (-7) := .minus (by decide) hseven
  have ht : Writes "+٩٩٩" 999 := .plus (by decide) hmany
  have hlimit : (-7 : Int).natAbs < Binary64.limit ∧ (999 : Int).natAbs < Binary64.limit := by
    have hpow := Binary64.pow_le_limit
    omega
  refine ⟨hs, ht, ?_⟩
  rw [(read_matrix hs ht ⟨[], []⟩ .willing).2, if_pos hlimit]
  rfl

/-- A one and as many zeros as one likes write a power of ten. -/
theorem writes_pow (zeros : Nat) :
    Writes (String.ofList ('1' :: List.replicate zeros '0')) (10 ^ zeros : Nat) := by
  have hspells :
      Numeral.Spells ('1' :: List.replicate zeros '0') (1 :: List.replicate zeros 0) := by
    refine .cons (by decide) ?_
    induction zeros with
    | zero => exact .nil
    | succ zeros ih => exact .cons (by decide) ih
  have hvalue : Nat.ofDigits 10 (1 :: List.replicate zeros 0).reverse = 10 ^ zeros := by
    rw [List.reverse_cons, List.reverse_replicate, Nat.ofDigits_append, Nat.ofDigits_replicate_zero]
    simp
  rw [← hvalue]
  exact .unsigned (by simp) hspells

/-- A one and 309 zeros. -/
def flood : String := String.ofList ('1' :: List.replicate 309 '0')

/-- A number far above every bound does not give a matrix of the greatest height if it is beyond the
limit. -/
theorem matrix_flood :
    Writes flood (10 ^ 309 : Nat) ∧ Writes "8" 8 ∧
      (registry.run ⟨"matrix", [flood, "8"]⟩ ⟨[], []⟩ .willing).answer.output =
        (Payload.matrix 12 32).encode ∧
      min 32 (max 4 ((10 ^ 309 : Nat) : Int)) = 32 ∧
      (Payload.matrix 12 32).encode ≠ (Payload.matrix 32 8).encode := by
  have hlimit : Binary64.limit ≤ 10 ^ 309 := by
    unfold Binary64.limit Binary64.limitAbove
    decide +kernel
  have hpow : 2 ^ 53 ≤ Binary64.limit := Binary64.pow_le_limit
  have height : Numeral.Spells ['8'] [8] := by decide
  have hs : Writes flood (10 ^ 309 : Nat) := writes_pow 309
  have ht : Writes "8" 8 := .unsigned (by decide) height
  have hbeyond : Binary64.limit ≤ ((10 ^ 309 : Nat) : Int).natAbs := by omega
  refine ⟨hs, ht, ?_, by omega, by decide +kernel⟩
  rw [output_run_matrix, matrixOf_of_limit_le hs ht (.inl hbeyond)]
  rfl

end VitaeShell.Builtin
