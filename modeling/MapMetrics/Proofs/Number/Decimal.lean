import MapMetrics.Number.Literal
import MapMetrics.Number.Shortest
import Mathlib.Data.List.Basic
import Mathlib.Data.List.TakeWhile

/-!
# Numbers are read from their own text

An integer that is written in decimal digits is read again by the reader of settings, as long as it
has no more digits than the limit. The text of a real has no other characters than digits, signs, a
point and the letters of the names of infinities and of the number that is none, and neither reader
of reals does anything to those before it reads them. So the two readers agree about it.
-/

namespace MapMetrics.Number

open MapMetrics.Text

/-! ## Integers -/

/-- The value of some digits is the one that they are written for. -/
theorem digitsValue_asciiDigit? {cs : List Char} (h : ∀ c ∈ cs, c.isDigit = true) :
    digitsValue 10 (cs.filterMap asciiDigit?) = Nat.ofDigitChars 10 cs 0 := by
  rw [digitsValue]
  generalize 0 = total
  induction cs generalizing total with
  | nil => rfl
  | cons c rest ih =>
    obtain ⟨hc, hrest⟩ := List.forall_mem_cons.mp h
    have hdigit : asciiDigit? c = some (c.toNat - 48) := if_pos hc
    rw [List.filterMap_cons, hdigit, Nat.ofDigitChars_cons, ← ih hrest, Nat.mul_comm 10 total]
    rfl

/-- A number above zero is written without a zero in front. -/
theorem head?_toDigits_ne {n : Nat} (h : 0 < n) : (Nat.toDigits 10 n).head? ≠ some '0' := by
  have hdigit : ∀ d < 10, 0 < d → [Nat.digitChar d].head? ≠ some '0' := by decide
  induction n using Nat.strongRecOn with
  | ind n ih =>
    by_cases hn : n < 10
    · rw [Nat.toDigits_of_lt_base hn]
      exact hdigit n hn h
    · have hle : 10 ≤ n := by omega
      rw [Nat.toDigits_of_base_le (by decide) hle,
        List.head?_append_of_ne_nil _ Nat.toDigits_ne_nil]
      exact ih (n / 10) (by omega) (by omega)

/-- The digits of a number above zero make an integer in its plain form. -/
theorem plainInteger_toDigits {n : Nat} (h : 0 < n)
    (hlength : (Nat.toDigits 10 n).length ≤ digitLimit) :
    plainInteger (Nat.toDigits 10 n) = .ok n := by
  have hdigits : ∀ c ∈ Nat.toDigits 10 n, c.isDigit = true :=
    fun c hc => Nat.isDigit_of_mem_toDigits (by decide) (by decide) hc
  have hvalue : digitsValue 10 ((Nat.toDigits 10 n).filterMap asciiDigit?) = n :=
    (digitsValue_asciiDigit? hdigits).trans Nat.ofDigitChars_ten_toDigits
  have hhead := head?_toDigits_ne h
  have hne : Nat.toDigits 10 n ≠ [] := Nat.toDigits_ne_nil
  generalize Nat.toDigits 10 n = cs at *
  obtain ⟨c, rest, rfl⟩ := List.exists_cons_of_ne_nil hne
  have hminus : c ≠ '-' := by
    rintro rfl
    exact absurd (hdigits '-' List.mem_cons_self) (by decide)
  have hzero : c ≠ '0' := fun he => hhead (congrArg some he)
  have hrun : (c :: rest).takeWhile Char.isDigit = c :: rest :=
    List.takeWhile_eq_self_iff.mpr hdigits
  have hsign : ∀ tail, c :: rest = '-' :: tail → False :=
    fun _ same => hminus (List.cons.inj same).1
  rw [plainInteger.eq_2 _ hsign]
  simp only [hrun]
  split
  · case h_1 none => cases none
  · case h_2 zero => exact absurd (List.cons.inj zero).1 hzero
  · rw [if_neg (by omega), if_neg (Nat.lt_irrefl _), hvalue]
    rfl

/-- What can be written has no more digits than the limit. -/
theorem length_toDigits_of_isWritable {n : Int} (h : isWritable n = true) :
    (Nat.toDigits 10 n.natAbs).length ≤ digitLimit := by
  have hlimit : 0 < digitLimit := by decide
  rw [isWritable] at h
  -- no step is to compute the power of ten
  generalize digitLimit = limit at hlimit h ⊢
  exact (Nat.length_toDigits_le_iff (by decide) hlimit).mpr (of_decide_eq_true h)

/-- A number above zero within the limit is read from its text. -/
theorem whole_toString {n : Nat} (h : 0 < n) (hwritable : isWritable n = true) :
    whole (toString n).toList = .ok n := by
  have htext : (toString n).toList = Nat.toDigits 10 n := Nat.toList_repr
  rw [whole, htext, plainInteger_toDigits h (length_toDigits_of_isWritable hwritable)]

/-! ## Reals -/

/-- The characters that numbers are written with. -/
def numerals : List Char :=
  ['0', '1', '2', '3', '4', '5', '6', '7', '8', '9', '+', '-', '.', 'e', 'i', 'n', 'f', 'a']

theorem isWhiteSpace_of_mem_numerals {c : Char} (h : c ∈ numerals) : isWhiteSpace c = false := by
  have hall : numerals.all (fun c => isWhiteSpace c == false) = true := by decide
  exact eq_of_beq (List.all_eq_true.mp hall c h)

theorem toAsciiDigit_of_mem_numerals {c : Char} (h : c ∈ numerals) : toAsciiDigit c = c := by
  have hall : numerals.all (fun c => toAsciiDigit c == c) = true := by decide
  exact eq_of_beq (List.all_eq_true.mp hall c h)

theorem forall_mem_numerals {cs : List Char} (h : cs.all numerals.contains = true) :
    ∀ c ∈ cs, c ∈ numerals :=
  fun c hc => List.contains_iff_mem.mp (List.all_eq_true.mp h c hc)

/-- What holds of the ten digits holds of all characters of a number. -/
theorem forall_mem_toDigits {P : Char → Prop} (h : ∀ d < 10, P (Nat.digitChar d)) (n : Nat) :
    ∀ c ∈ Nat.toDigits 10 n, P c := by
  induction n using Nat.strongRecOn with
  | ind n ih =>
    intro c hc
    by_cases hn : n < 10
    · rw [Nat.toDigits_of_lt_base hn, List.mem_singleton] at hc
      exact hc ▸ h n hn
    · have hle : 10 ≤ n := by omega
      rw [Nat.toDigits_of_base_le (by decide) hle, List.mem_append, List.mem_singleton] at hc
      obtain hfront | rfl := hc
      · exact ih (n / 10) (by omega) c hfront
      · exact h (n % 10) (Nat.mod_lt n (by decide))

theorem mem_numerals_of_mem_toDigits {n : Nat} {c : Char} (h : c ∈ Nat.toDigits 10 n) :
    c ∈ numerals :=
  forall_mem_toDigits (by decide) n c h

/-- A decimal is written with numerals, in any notation. -/
theorem mem_numerals_of_mem_render (layout : Notation) (d : Decimal) :
    ∀ c ∈ (d.render layout).toList, c ∈ numerals := by
  have digits (n : Nat) : ∀ c ∈ Nat.toDigits 10 n, c ∈ numerals :=
    fun _ => mem_numerals_of_mem_toDigits
  have taken (k : Nat) : ∀ c ∈ (Nat.toDigits 10 d.digits).take k, c ∈ numerals :=
    fun c hc => digits d.digits c (List.mem_of_mem_take hc)
  have dropped (k : Nat) : ∀ c ∈ (Nat.toDigits 10 d.digits).drop k, c ∈ numerals :=
    fun c hc => digits d.digits c (List.mem_of_mem_drop hc)
  have zeros (n : Nat) : ∀ c ∈ List.replicate n '0', c ∈ numerals := fun c hc => by
    rw [List.eq_of_mem_replicate hc]
    decide
  unfold Decimal.render
  simp only
  split
  · split
    · rw [String.toList_ofList]
      exact List.forall_mem_append.mpr ⟨List.forall_mem_append.mpr
        ⟨forall_mem_numerals rfl, zeros _⟩, digits _⟩
    · rw [String.toList_ofList]
      refine List.forall_mem_append.mpr ⟨List.forall_mem_append.mpr ⟨taken _, zeros _⟩,
        List.forall_mem_cons.mpr ⟨by decide, ?_⟩⟩
      split
      · exact forall_mem_numerals rfl
      · exact dropped _
  · rw [String.toList_ofList]
    refine List.forall_mem_append.mpr ⟨List.forall_mem_append.mpr ⟨taken _, ?_⟩,
      List.forall_mem_cons.mpr ⟨by decide, List.forall_mem_cons.mpr ⟨?_, ?_⟩⟩⟩
    · split
      · exact List.forall_mem_nil _
      · exact List.forall_mem_cons.mpr ⟨by decide, dropped _⟩
    · split <;> decide
    · exact List.forall_mem_append.mpr ⟨zeros _, digits _⟩

/-- A real is written with numerals. -/
theorem mem_numerals_of_mem_text (x : Float) : ∀ c ∈ (text x).toList, c ∈ numerals := by
  have sign : ∀ c ∈ (if signBit x then "-" else "").toList, c ∈ numerals := by
    cases signBit x <;> exact forall_mem_numerals rfl
  unfold text
  split
  · exact forall_mem_numerals rfl
  · simp only
    split
    · rw [String.toList_append]
      exact List.forall_mem_append.mpr ⟨sign, forall_mem_numerals rfl⟩
    · split
      · rw [String.toList_append]
        exact List.forall_mem_append.mpr ⟨sign, forall_mem_numerals rfl⟩
      · rw [String.toList_append]
        exact List.forall_mem_append.mpr ⟨sign, mem_numerals_of_mem_render _ _⟩

/-- Nothing but numerals is left as it is by either reader. -/
theorem trim_of_numerals {cs : List Char} (h : ∀ c ∈ cs, c ∈ numerals) :
    trim isWhiteSpace cs = cs :=
  trim_eq_self (fun c hc => isWhiteSpace_of_mem_numerals (h c (List.mem_of_head? hc)))
    fun c hc => isWhiteSpace_of_mem_numerals (h c (List.mem_of_getLast? hc))

/-- What the reader of digits of any script makes of the text of a real, the reader of settings
makes of it. -/
theorem real?_text {x y : Float} (h : realOfText? (text x).toList = some y) :
    real? (text x).toList = some y := by
  have hnumerals := mem_numerals_of_mem_text x
  have hmap : (text x).toList.map toAsciiDigit = (text x).toList :=
    (List.map_congr_left fun c hc => toAsciiDigit_of_mem_numerals (hnumerals c hc)).trans
      (List.map_id _)
  rw [realOfText?, trim_of_numerals hnumerals, hmap] at h
  rw [real?, trim_of_numerals hnumerals, h]
  rfl

/-! ## Integers in base ten -/

/-- What a digit counts in base ten is what it counts in ASCII. -/
theorem digitIn?_of_mem_toDigits {n : Nat} :
    ∀ c ∈ Nat.toDigits 10 n, digitIn? 10 c = asciiDigit? c ∧ c ≠ '_' :=
  forall_mem_toDigits (by decide) n

/-- Digits without underscores are read one by one. -/
theorem groupedDigits?_of_forall {digit? : Char → Option Nat} {cs : List Char} (hne : cs ≠ [])
    (h : ∀ c ∈ cs, c ≠ '_' ∧ (digit? c).isSome = true) :
    groupedDigits? digit? cs = some (cs.filterMap digit?) := by
  induction cs with
  | nil => exact absurd rfl hne
  | cons c rest ih =>
    obtain ⟨⟨-, hc⟩, hrest⟩ := List.forall_mem_cons.mp h
    obtain ⟨d, hd⟩ := Option.isSome_iff_exists.mp hc
    cases rest with
    | nil => rw [groupedDigits?, List.filterMap_cons_some hd, hd]; rfl
    | cons next more =>
      have hnext : next ≠ '_' := (hrest next List.mem_cons_self).1
      have hmore := ih (List.cons_ne_nil next more) hrest
      rw [groupedDigits?.eq_4 _ _ _ (List.cons_ne_nil next more)
        (fun tail same => hnext (List.cons.inj same).1), hmore, hd,
        List.filterMap_cons_some hd]
      rfl

/-- Digits with or without a minus are read in base ten. -/
theorem integerIn_toDigits {n : Nat} (hlength : (Nat.toDigits 10 n).length ≤ digitLimit)
    (negative : Bool) :
    integerIn 10 ((if negative then ['-'] else []) ++ Nat.toDigits 10 n) =
      .ok (signedInt negative n) := by
  have hdigits : ∀ c ∈ Nat.toDigits 10 n, c.isDigit = true :=
    fun c hc => Nat.isDigit_of_mem_toDigits (by decide) (by decide) hc
  have hin := digitIn?_of_mem_toDigits (n := n)
  have hsome : ∀ c ∈ Nat.toDigits 10 n, (digitIn? 10 c).isSome = true := by
    intro c hc
    rw [(hin c hc).1, asciiDigit?, if_pos (hdigits c hc)]
    rfl
  have htrim : trim isWhiteSpace ((if negative then ['-'] else []) ++ Nat.toDigits 10 n) =
      (if negative then ['-'] else []) ++ Nat.toDigits 10 n := by
    refine trim_of_numerals (List.forall_mem_append.mpr ⟨?_, fun _ =>
      mem_numerals_of_mem_toDigits⟩)
    cases negative with
    | true => exact forall_mem_numerals rfl
    | false => exact List.forall_mem_nil _
  have hsign : splitSign ((if negative then ['-'] else []) ++ Nat.toDigits 10 n) =
      (negative, Nat.toDigits 10 n) := by
    cases negative with
    | true => rfl
    | false =>
      rw [if_neg Bool.false_ne_true, List.nil_append]
      refine splitSign.eq_3 _ (fun rest same => ?_) (fun rest same => ?_)
      · exact absurd (hdigits '-' (same ▸ List.mem_cons_self)) (by decide)
      · exact absurd (hdigits '+' (same ▸ List.mem_cons_self)) (by decide)
  have hdrop : dropBaseLetter 10 (Nat.toDigits 10 n) = Nat.toDigits 10 n := by
    rw [dropBaseLetter.eq_def]
    split
    · case h_1 digits => simpa [baseLetter?] using digits.symm
    · rfl
  have hrun : ((Nat.toDigits 10 n).takeWhile fun c => c == '_' || (digitIn? 10 c).isSome) =
      Nat.toDigits 10 n :=
    List.takeWhile_eq_self_iff.mpr fun c hc => by rw [hsome c hc, Bool.or_true]
  have hgroups := groupedDigits?_of_forall (Nat.toDigits_ne_nil (n := n) (b := 10))
    fun c hc => ⟨(hin c hc).2, hsome c hc⟩
  have hsame : (Nat.toDigits 10 n).filterMap (digitIn? 10) =
      (Nat.toDigits 10 n).filterMap asciiDigit? :=
    List.filterMap_congr fun c hc => (hin c hc).1
  have hcount : ((Nat.toDigits 10 n).filterMap asciiDigit?).length ≤ digitLimit :=
    (List.length_filterMap_le _ _).trans hlength
  rw [integerIn, htrim, hsign]
  simp only [hdrop, hrun, hgroups, hsame, Nat.not_lt.mpr hcount, decide_false, Bool.and_false,
    Bool.false_eq_true, if_false, Nat.lt_irrefl]
  rw [digitsValue_asciiDigit? hdigits, Nat.ofDigitChars_ten_toDigits]

/-- An integer that can be written is read from its text in base ten. -/
theorem integerIn_toString {n : Int} (h : isWritable n = true) :
    integerIn 10 (toString n).toList = .ok n := by
  have hlength := length_toDigits_of_isWritable h
  cases n with
  | ofNat m =>
    have htext : (toString (Int.ofNat m)).toList = Nat.toDigits 10 m := Nat.toList_repr
    rw [htext]
    exact integerIn_toDigits hlength false
  | negSucc m =>
    have htext : (toString (Int.negSucc m)).toList = ['-'] ++ Nat.toDigits 10 (m + 1) := by
      change ("-" ++ Nat.repr (m + 1)).toList = _
      rw [String.toList_append, Nat.toList_repr]
      rfl
    rw [htext]
    exact integerIn_toDigits hlength true

end MapMetrics.Number
