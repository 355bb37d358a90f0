import MapMetrics.Map.Config
import Mathlib

/-!
# How lenient choices are spelled

A lenient choice is made by the upper-case form of a text without the blanks around it. That form
is taken character by character, and some characters outside ASCII have one in ASCII, of up to three
letters. Whether a name can come about like this depends on which of these forms are parts of it: of
an eviction policy, none is; of a format, only the I of a dotless i. So a policy is chosen exactly
by its name in ASCII letters of any case, and a format exactly by its name in these letters, where a
dotless i is as good as any other i.
-/

namespace MapMetrics

namespace Text

variable {blank : Char → Bool} {cs : List Char}

/-! ## What trimming leaves -/

/-- What trimming removes stands at the two ends and is blank. -/
theorem exists_eq_append_trim (blank : Char → Bool) (cs : List Char) :
    ∃ before after, cs = before ++ trim blank cs ++ after ∧ (∀ c ∈ before, blank c = true) ∧
      ∀ c ∈ after, blank c = true := by
  refine ⟨cs.takeWhile blank, ((cs.dropWhile blank).reverse.takeWhile blank).reverse, ?_,
    fun c hc => List.mem_takeWhile_imp hc,
    fun c hc => List.mem_takeWhile_imp (List.mem_reverse.mp hc)⟩
  rw [trim, List.append_assoc, ← List.reverse_append, List.takeWhile_append_dropWhile,
    List.reverse_reverse, List.takeWhile_append_dropWhile]

/-- Nothing is left to trim of a text without blanks. -/
theorem dropWhile_eq_self {ds : List Char} (h : ∀ c ∈ ds, blank c = false) :
    ds.dropWhile blank = ds := by
  refine List.dropWhile_eq_self_iff.mpr fun hpos => ?_
  rw [h _ (List.getElem_mem hpos)]
  exact Bool.false_ne_true

/-- Blanks at the two ends of a text without any are removed. -/
theorem trim_between {before after : List Char} (hbefore : ∀ c ∈ before, blank c = true)
    (hafter : ∀ c ∈ after, blank c = true) (hcs : ∀ c ∈ cs, blank c = false) :
    trim blank (before ++ cs ++ after) = cs := by
  rw [trim, List.append_assoc, List.dropWhile_append_of_pos hbefore]
  cases cs with
  | nil =>
    rw [List.nil_append, List.dropWhile_eq_nil_iff.mpr hafter]
    rfl
  | cons first rest =>
    have hfirst : ¬ blank first = true := by simp [hcs first List.mem_cons_self]
    rw [List.cons_append, List.dropWhile_cons_of_neg hfirst, ← List.cons_append,
      List.reverse_append, List.dropWhile_append_of_pos fun c hc => hafter c (List.mem_reverse.mp hc),
      dropWhile_eq_self fun c hc => hcs c (List.mem_reverse.mp hc), List.reverse_reverse]

/-! ## Forms outside ASCII -/

/-- The characters outside ASCII whose upper-case forms are in ASCII. -/
def wideForms : List (Char × List Char) :=
  [('\u00DF', ['S', 'S']), ('\u0131', ['I']), ('\u017F', ['S']), ('\uFB00', ['F', 'F']),
    ('\uFB01', ['F', 'I']), ('\uFB02', ['F', 'L']), ('\uFB03', ['F', 'F', 'I']),
    ('\uFB04', ['F', 'F', 'L']), ('\uFB05', ['S', 'T']), ('\uFB06', ['S', 'T'])]

/-- An upper-case form in ASCII is that of an ASCII character or one of these. -/
theorem of_asciiUpper?_eq_some {c : Char} {form : List Char} (h : asciiUpper? c = some form) :
    (c.toNat < 0x80 ∧ form = [c.toUpper]) ∨ (c, form) ∈ wideForms := by
  unfold asciiUpper? at h
  split at h
  case isTrue hascii => exact .inl ⟨hascii, (Option.some.inj h).symm⟩
  case isFalse =>
    refine .inr ?_
    split at h
    case h_11 => cases h
    all_goals
      obtain rfl := Option.some.inj h
      decide

/-- The upper-case form of an ASCII character is one character. -/
theorem asciiUpper?_of_lt {c : Char} (h : c.toNat < 0x80) : asciiUpper? c = some [c.toUpper] := by
  unfold asciiUpper?
  exact if_pos h

theorem upper?_cons (c : Char) (cs : List Char) :
    upper? (c :: cs) = (asciiUpper? c).bind fun form => (upper? cs).map (form ++ ·) := by
  unfold upper?
  rw [List.mapM_cons]
  cases asciiUpper? c with
  | none => rfl
  | some form => cases cs.mapM asciiUpper? <;> rfl

/-! ## Spelling a word -/

/-- A text spells a word: between blanks stand characters that are read as the word, one by one. -/
def Spells (read : Char → Char) (word cs : List Char) : Prop :=
  ∃ before core after, cs = before ++ core ++ after ∧ (∀ c ∈ before, isBlank c = true) ∧
    (∀ c ∈ after, isBlank c = true) ∧ core.map read = word

/-- A reading of single characters gives a word just as the upper-case form does. -/
structure Suits (read : Char → Char) (word : List Char) : Prop where
  /-- The forms that are parts of the word are single characters, read in the same way. -/
  forms : ∀ c form, asciiUpper? c = some form → form <:+: word → form = [read c]
  /-- What is read as a part of the word has that as its form. -/
  letters : ∀ c, read c ∈ word → asciiUpper? c = some [read c]
  /-- It is no blank. -/
  notBlank : ∀ c, read c ∈ word → isBlank c = false

namespace Suits

variable {read : Char → Char} {word : List Char}

/-- An upper-case form that is a part of the word is what is read. -/
theorem eq_map_of_upper? (h : Suits read word) {ds : List Char} (hds : upper? cs = some ds)
    (hpart : ds <:+: word) : ds = cs.map read := by
  induction cs generalizing ds with
  | nil => exact (Option.some.inj hds).symm
  | cons c rest ih =>
    rw [upper?_cons] at hds
    obtain ⟨form, hform, hds⟩ := Option.bind_eq_some_iff.mp hds
    obtain ⟨forms, hforms, rfl⟩ := Option.map_eq_some_iff.mp hds
    rw [h.forms c form hform ((List.prefix_append form forms).isInfix.trans hpart),
      ih hforms ((List.suffix_append form forms).isInfix.trans hpart)]
    rfl

/-- What is read as parts of the word has that as its upper-case form. -/
theorem upper?_eq_map (h : Suits read word) (hcs : ∀ c ∈ cs, read c ∈ word) :
    upper? cs = some (cs.map read) := by
  induction cs with
  | nil => rfl
  | cons c rest ih =>
    obtain ⟨hc, hrest⟩ := List.forall_mem_cons.mp hcs
    rw [upper?_cons, h.letters c hc, ih hrest]
    rfl

/-- A text has the word as its form, without the blanks around it, exactly when it spells it. -/
theorem upper?_trim_iff (h : Suits read word) :
    upper? (trim isBlank cs) = some word ↔ Spells read word cs := by
  constructor
  · intro hword
    obtain ⟨before, after, hcs, hbefore, hafter⟩ := exists_eq_append_trim isBlank cs
    exact ⟨before, _, after, hcs, hbefore, hafter,
      (h.eq_map_of_upper? hword List.infix_rfl).symm⟩
  · rintro ⟨before, core, after, rfl, hbefore, hafter, hcore⟩
    have hread (c : Char) (hc : c ∈ core) : read c ∈ word := hcore ▸ List.mem_map_of_mem hc
    rw [trim_between hbefore hafter fun c hc => h.notBlank c (hread c hc), h.upper?_eq_map hread,
      hcore]

end Suits

/-- A character of a text that spells a word is a blank or is read as a part of the word. -/
theorem Spells.isBlank_or_mem {read : Char → Char} {word : List Char} (h : Spells read word cs)
    {c : Char} (hc : c ∈ cs) : isBlank c = true ∨ read c ∈ word := by
  obtain ⟨before, core, after, rfl, hbefore, hafter, rfl⟩ := h
  rcases List.mem_append.mp hc with hc | hc
  · rcases List.mem_append.mp hc with hc | hc
    · exact .inl (hbefore c hc)
    · exact .inr (List.mem_map_of_mem hc)
  · exact .inl (hafter c hc)

/-! ## Capitals -/

/-- An ASCII letter is in ASCII, and no blank. -/
theorem of_isAlpha {c : Char} (h : c.isAlpha = true) : c.toNat < 0x80 ∧ isBlank c = false := by
  have hrange : (0x41 ≤ c.toNat ∧ c.toNat ≤ 0x5A) ∨ (0x61 ≤ c.toNat ∧ c.toNat ≤ 0x7A) := by
    simpa [Char.isAlpha, Char.isUpper, Char.isLower, UInt32.le_iff_toNat_le] using h
  refine ⟨by omega, ?_⟩
  simp only [isBlank, isWhiteSpace, Bool.or_eq_false_iff, Bool.and_eq_false_iff,
    decide_eq_false_iff_not, beq_eq_false_iff_ne]
  omega

/-- What becomes a letter of a word in capitals is in ASCII, and no blank. -/
theorem of_toUpper_mem {word : List Char} (hcapitals : ∀ d ∈ word, d.isUpper = true) {c : Char}
    (h : c.toUpper ∈ word) : c.toNat < 0x80 ∧ isBlank c = false := by
  have hupper : c.toUpper.isUpper = true := hcapitals _ h
  rw [Char.isUpper_toUpper_eq_isAlpha] at hupper
  exact of_isAlpha hupper

/-- Upper case is a reading of words in capitals that no forms from outside ASCII are parts of. -/
theorem suits_toUpper {word : List Char} (hcapitals : ∀ d ∈ word, d.isUpper = true)
    (hwide : ∀ e ∈ wideForms, ¬ e.2 <:+: word) : Suits Char.toUpper word where
  forms c form hform hpart := by
    rcases of_asciiUpper?_eq_some hform with ⟨-, hsingle⟩ | hmem
    · exact hsingle
    · exact absurd hpart (hwide _ hmem)
  letters c hc := asciiUpper?_of_lt (of_toUpper_mem hcapitals hc).1
  notBlank c hc := (of_toUpper_mem hcapitals hc).2

/-- The capital of an ASCII letter, or of a dotless i. -/
def capital (c : Char) : Char :=
  if c = '\u0131' then 'I' else c.toUpper

theorem capital_of_ne {c : Char} (h : c ≠ '\u0131') : capital c = c.toUpper :=
  if_neg h

/-- With a dotless i as an i, it is one of words in capitals that no other such forms are parts
of. -/
theorem suits_capital {word : List Char} (hcapitals : ∀ d ∈ word, d.isUpper = true)
    (hwide : ∀ e ∈ wideForms, e.2 <:+: word → e = ('\u0131', ['I'])) : Suits capital word := by
  refine ⟨fun c form hform hpart => ?_, fun c hc => ?_, fun c hc => ?_⟩
  · rcases of_asciiUpper?_eq_some hform with ⟨hascii, hsingle⟩ | hmem
    · rw [hsingle, capital_of_ne]
      rintro rfl
      exact absurd hascii (by decide)
    · obtain ⟨rfl, rfl⟩ := Prod.mk.inj (hwide _ hmem hpart)
      rfl
  · by_cases hdotless : c = '\u0131'
    · rw [hdotless]
      rfl
    · rw [capital_of_ne hdotless] at hc ⊢
      exact asciiUpper?_of_lt (of_toUpper_mem hcapitals hc).1
  · by_cases hdotless : c = '\u0131'
    · rw [hdotless]
      rfl
    · rw [capital_of_ne hdotless] at hc
      exact (of_toUpper_mem hcapitals hc).2

end Text

/-! ## Choices by text -/

namespace Named

variable {α : Type} [Named α] {read : Char → Char} {s : String} {m : α}

/-- Every member is found under its name, which a reading of single characters gives. -/
structure Spelled (α : Type) [Named α] (read : Char → Char) : Prop where
  /-- A member is found under its name. -/
  found : ∀ m : α, ofName? (name m) = some m
  /-- The reading gives its name. -/
  suits : ∀ m : α, Text.Suits read (name m).toList

/-- A name is that of one member at most. -/
theorem Spelled.ofName?_eq_some_iff (h : Spelled α read) {n : String} :
    ofName? n = some m ↔ name m = n := by
  constructor
  · intro hfound
    have hname := List.find?_some (p := fun k : α => name k == n) hfound
    exact beq_iff_eq.mp hname
  · rintro rfl
    exact h.found m

/-- The member of a text is the one whose name it spells. -/
theorem Spelled.ofText?_eq_some_iff (h : Spelled α read) :
    ofText? s = some m ↔ Text.Spells read (name m).toList s.toList := by
  rw [← (h.suits m).upper?_trim_iff, ofText?]
  change Option.bind _ _ = _ ↔ _
  rw [Option.bind_eq_some_iff]
  constructor
  · rintro ⟨cs, hcs, hfound⟩
    rw [hcs, h.ofName?_eq_some_iff.mp hfound, String.toList_ofList]
  · intro hname
    exact ⟨_, hname, h.ofName?_eq_some_iff.mpr (String.ofList_toList).symm⟩

/-- A text is a choice exactly when it spells one, and otherwise it is refused. -/
theorem Spelled.choose_text_iff (h : Spelled α read) (words : Vocabulary) (s : String) :
    (∀ m : α, choose words (.text s) = .ok m ↔ Text.Spells read (name m).toList s.toList) ∧
      ((choose words (.text s) : Except Refusal α) = .error (.unknown words s) ↔
        ∀ m : α, ¬ Text.Spells read (name m).toList s.toList) := by
  simp only [← h.ofText?_eq_some_iff, choose]
  cases (ofText? s : Option α) <;> simp

end Named

theorem EvictionPolicy.isUpper_of_mem_name (p : EvictionPolicy) :
    ∀ d ∈ (Named.name p).toList, d.isUpper = true :=
  List.all_eq_true.mp (by cases p <;> rfl)

theorem InMemoryFormat.isUpper_of_mem_name (f : InMemoryFormat) :
    ∀ d ∈ (Named.name f).toList, d.isUpper = true :=
  List.all_eq_true.mp (by cases f <;> rfl)

/-- No upper-case form from outside ASCII is a part of the name of a policy. -/
theorem EvictionPolicy.spelled : Named.Spelled EvictionPolicy Char.toUpper where
  found p := by cases p <;> rfl
  suits p := Text.suits_toUpper p.isUpper_of_mem_name (by cases p <;> decide)

/-- Only that of a dotless i is a part of the name of a format. -/
theorem InMemoryFormat.spelled : Named.Spelled InMemoryFormat Text.capital where
  found f := by cases f <;> rfl
  suits f := Text.suits_capital f.isUpper_of_mem_name (by cases f <;> decide)

/-- A text is a policy exactly when it is the policy's name in ASCII letters of any case, with
blanks around it, and a format exactly when it is the format's name in such letters, or with
dotless i's in the place of i's. Every other text is refused. So besides blanks a text that is a
policy holds ASCII characters only, and one that is a format these and dotless i's. -/
theorem choose_policy_and_format (s : String) :
    (∀ p : EvictionPolicy, choose EvictionPolicy.words (.text s) = .ok p ↔
      Text.Spells Char.toUpper (Named.name p).toList s.toList) ∧
    ((choose EvictionPolicy.words (.text s) : Except Refusal EvictionPolicy) =
        .error (.unknown EvictionPolicy.words s) ↔
      ∀ p : EvictionPolicy, ¬ Text.Spells Char.toUpper (Named.name p).toList s.toList) ∧
    (∀ f : InMemoryFormat, choose InMemoryFormat.words (.text s) = .ok f ↔
      Text.Spells Text.capital (Named.name f).toList s.toList) ∧
    ((choose InMemoryFormat.words (.text s) : Except Refusal InMemoryFormat) =
        .error (.unknown InMemoryFormat.words s) ↔
      ∀ f : InMemoryFormat, ¬ Text.Spells Text.capital (Named.name f).toList s.toList) ∧
    (∀ p : EvictionPolicy, choose EvictionPolicy.words (.text s) = .ok p →
      ∀ c ∈ s.toList, Text.isBlank c = true ∨ c.toNat < 0x80) ∧
    (∀ f : InMemoryFormat, choose InMemoryFormat.words (.text s) = .ok f →
      ∀ c ∈ s.toList, Text.isBlank c = true ∨ c.toNat < 0x80 ∨ c = '\u0131') := by
  obtain ⟨hpolicy, hnoPolicy⟩ := EvictionPolicy.spelled.choose_text_iff EvictionPolicy.words s
  obtain ⟨hformat, hnoFormat⟩ := InMemoryFormat.spelled.choose_text_iff InMemoryFormat.words s
  refine ⟨hpolicy, hnoPolicy, hformat, hnoFormat, fun p hp c hc => ?_, fun f hf c hc => ?_⟩
  · rcases ((hpolicy p).mp hp).isBlank_or_mem hc with hblank | hmem
    · exact .inl hblank
    · exact .inr (Text.of_toUpper_mem p.isUpper_of_mem_name hmem).1
  · rcases ((hformat f).mp hf).isBlank_or_mem hc with hblank | hmem
    · exact .inl hblank
    · by_cases hdotless : c = '\u0131'
      · exact .inr (.inr hdotless)
      · rw [Text.capital_of_ne hdotless] at hmem
        exact .inr (.inl (Text.of_toUpper_mem f.isUpper_of_mem_name hmem).1)

/-- A format with a dotless i, between two kinds of blanks. -/
theorem choose_policy_and_format_native :
    choose InMemoryFormat.words (.text " Nat\u0131ve\u00A0") = .ok InMemoryFormat.native ∧
      ∀ c ∈ " Nat\u0131ve\u00A0".toList,
        Text.isBlank c = true ∨ c.toNat < 0x80 ∨ c = '\u0131' := by
  obtain ⟨-, -, hformat, -, -, hcharacters⟩ := choose_policy_and_format " Nat\u0131ve\u00A0"
  have hnative : choose InMemoryFormat.words (.text " Nat\u0131ve\u00A0") =
      .ok InMemoryFormat.native :=
    (hformat .native).mpr ⟨[' '], "Nat\u0131ve".toList, ['\u00A0'], rfl,
      List.forall_mem_singleton.mpr rfl, List.forall_mem_singleton.mpr rfl, rfl⟩
  exact ⟨hnative, hcharacters .native hnative⟩

/-- A text with a dotless i is a format, though it is not the name of one in any case of ASCII
letters. -/
theorem choose_dotless :
    choose InMemoryFormat.words (.text "b\u0131nary") = .ok InMemoryFormat.binary ∧
      ¬ Text.Spells Char.toUpper (Named.name InMemoryFormat.binary).toList
        "b\u0131nary".toList := by
  refine ⟨by decide, fun hspells => ?_⟩
  rcases hspells.isBlank_or_mem (c := '\u0131') (by decide) with hblank | hmem
  · exact absurd hblank (by decide)
  · exact absurd hmem (by decide)

end MapMetrics
