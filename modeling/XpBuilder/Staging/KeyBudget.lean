import XpBuilder.Staging.Rebuild

/-! The keys of a staging table against the byte budget. Prefixes are shortened from the
left until the key fits, each down to the least length; a key that does not fit then is
left out. -/

namespace XpBuilder.TableSchema
open PythonText (orElse)

/-! ## The loop -/

/-- The bytes of a prefix are those of its characters. -/
def PlanPart.Sized (part : PlanPart) : Prop := ∀ p, part.prefixChars = some p → part.bytes = p * charsetBytes

/-- The bytes of a part with its prefix shortened as far as the loop goes. -/
def PlanPart.least (part : PlanPart) : Nat :=
  match part.prefixChars with
  | some p => min p minPrefixChars * charsetBytes
  | none => part.bytes

/-- What the loop may do to a part. -/
structure PlanPart.ShortenedTo (part after : PlanPart) : Prop where
  column : after.column = part.column
  whole : part.prefixChars = none → after = part
  shortened : ∀ p, part.prefixChars = some p → ∃ q, after.prefixChars = some q ∧ q ≤ p ∧
    min p minPrefixChars ≤ q ∧ after.bytes = q * charsetBytes

theorem PlanPart.ShortenedTo.refl {part : PlanPart} (sized : part.Sized) : part.ShortenedTo part where
  column := rfl
  whole _ := rfl
  shortened p asked := ⟨p, asked, le_rfl, Nat.min_le_left _ _, sized p asked⟩

theorem shrinkParts_shortened (overflow : Int) {plan : List PlanPart} (sized : ∀ part ∈ plan, part.Sized) :
    List.Forall₂ PlanPart.ShortenedTo plan (shrinkParts overflow plan).1 := by
  induction plan generalizing overflow with
  | nil => exact .nil
  | cons part rest ih =>
    rw [List.forall_mem_cons] at sized
    have kept := PlanPart.ShortenedTo.refl sized.1
    unfold shrinkParts
    by_cases fits : overflow ≤ 0
    · rw [if_pos fits]
      exact .cons kept (List.forall₂_same.mpr (fun p mem => .refl (sized.2 p mem)))
    · rw [if_neg fits]
      cases asked : part.prefixChars with
      | none => exact .cons kept (ih overflow sized.2)
      | some p =>
        dsimp only
        split_ifs with full
        · exact .cons kept (ih overflow sized.2)
        · refine .cons ⟨rfl, ?_, ?_⟩ (ih _ sized.2)
          · intro none
            exact absurd (asked.symm.trans none) (by simp)
          · intro q same
            have equal : p = q := Option.some.inj (asked.symm.trans same)
            have taken := Nat.min_le_left (p - minPrefixChars)
              ((overflow.toNat + charsetBytes - 1) / charsetBytes)
            rw [← equal]
            refine ⟨_, rfl, Nat.sub_le _ _, ?_, rfl⟩
            omega

theorem PlanPart.ShortenedTo.bytes_le {part after : PlanPart} (sized : part.Sized) (short : part.ShortenedTo after) :
    after.bytes ≤ part.bytes := by
  cases asked : part.prefixChars with
  | none => rw [short.whole asked]
  | some p =>
    obtain ⟨q, -, below, -, bytes⟩ := short.shortened p asked
    rw [bytes, sized p asked]
    exact Nat.mul_le_mul_right _ below

theorem PlanPart.ShortenedTo.least_le {part after : PlanPart} (short : part.ShortenedTo after) :
    part.least ≤ after.bytes := by
  cases asked : part.prefixChars with
  | none => rw [short.whole asked, least, asked]
  | some p =>
    obtain ⟨q, -, -, above, bytes⟩ := short.shortened p asked
    rw [bytes, least, asked]
    exact Nat.mul_le_mul_right _ above

theorem planBytes_shortened {plan after : List PlanPart} (sized : ∀ part ∈ plan, part.Sized)
    (short : List.Forall₂ PlanPart.ShortenedTo plan after) :
    (plan.map PlanPart.least).sum ≤ planBytes after ∧ planBytes after ≤ planBytes plan := by
  induction short with
  | nil => exact ⟨le_rfl, le_rfl⟩
  | cons first _ ih =>
    rw [List.forall_mem_cons] at sized
    have later := ih sized.2
    have above := first.least_le
    have below := first.bytes_le sized.1
    simp only [planBytes, List.map_cons, List.sum_cons] at later ⊢
    omega

/-- The loop takes off all that is over, or it leaves the least of every part. -/
theorem shrinkParts_bytes (overflow : Int) {plan : List PlanPart} (sized : ∀ part ∈ plan, part.Sized) :
    overflow ≤ (planBytes plan : Int) - planBytes (shrinkParts overflow plan).1 ∨
      planBytes (shrinkParts overflow plan).1 = (plan.map PlanPart.least).sum := by
  induction plan generalizing overflow with
  | nil => exact .inr rfl
  | cons part rest ih =>
    rw [List.forall_mem_cons] at sized
    unfold shrinkParts
    by_cases fits : overflow ≤ 0
    · rw [if_pos fits, sub_self]
      exact .inl fits
    · rw [if_neg fits]
      cases asked : part.prefixChars with
      | none =>
        have later := ih overflow sized.2
        have least : part.least = part.bytes := by
          rw [PlanPart.least, asked]
        simp only [planBytes, List.map_cons, List.sum_cons, least] at later ⊢
        omega
      | some p =>
        have bytes : part.bytes = p * charsetBytes := sized.1 p asked
        have least : part.least = min p minPrefixChars * charsetBytes := by
          rw [PlanPart.least, asked]
        have four : charsetBytes = 4 := rfl
        dsimp only
        split_ifs with full
        · have later := ih overflow sized.2
          simp only [planBytes, List.map_cons, List.sum_cons, least, bytes, four] at later full ⊢
          omega
        · have later := ih (overflow - ((part.bytes : Int) - ((p - min (p - minPrefixChars)
            ((overflow.toNat + charsetBytes - 1) / charsetBytes)) * charsetBytes : Nat))) sized.2
          have below := planBytes_shortened sized.2 (shrinkParts_shortened (overflow - ((part.bytes : Int) -
            ((p - min (p - minPrefixChars) ((overflow.toNat + charsetBytes - 1) / charsetBytes)) *
              charsetBytes : Nat))) sized.2)
          simp only [planBytes, List.map_cons, List.sum_cons, least, bytes, four] at later below full ⊢
          omega

/-- The loop makes a plan fit whenever its least does. -/
theorem fitKeyPrefixes_fits_iff {plan : List PlanPart} (sized : ∀ part ∈ plan, part.Sized) :
    planBytes (fitKeyPrefixes plan).1 ≤ maxKeyBytes ↔ (plan.map PlanPart.least).sum ≤ maxKeyBytes := by
  have bounds := planBytes_shortened sized
    (shrinkParts_shortened ((planBytes plan : Int) - maxKeyBytes) sized)
  have taken := shrinkParts_bytes ((planBytes plan : Int) - maxKeyBytes) sized
  unfold fitKeyPrefixes
  omega

/-! ## No more than it must -/

theorem shrinkParts_of_nonpos {overflow : Int} (fits : overflow ≤ 0) (plan : List PlanPart) :
    shrinkParts overflow plan = (plan, false) := by
  cases plan with
  | nil => rfl
  | cons part rest =>
    unfold shrinkParts
    exact if_pos fits

/-- What the loop takes off goes less than a character beyond what is over. -/
theorem shrinkParts_taken {overflow : Int} (over_budget : 0 < overflow) {plan : List PlanPart}
    (sized : ∀ part ∈ plan, part.Sized) :
    (planBytes plan : Int) - planBytes (shrinkParts overflow plan).1 < overflow + charsetBytes := by
  have four : charsetBytes = 4 := rfl
  induction plan generalizing overflow with
  | nil =>
    simp only [shrinkParts, sub_self]
    omega
  | cons part rest ih =>
    rw [List.forall_mem_cons] at sized
    unfold shrinkParts
    rw [if_neg (Int.not_le.mpr over_budget)]
    cases asked : part.prefixChars with
    | none =>
      have later := ih over_budget sized.2
      simp only [planBytes, List.map_cons, List.sum_cons] at later ⊢
      omega
    | some p =>
      have bytes : part.bytes = p * charsetBytes := sized.1 p asked
      dsimp only
      split_ifs with full
      · have later := ih over_budget sized.2
        simp only [planBytes, List.map_cons, List.sum_cons] at later ⊢
        omega
      · generalize taken : min (p - minPrefixChars) ((overflow.toNat + charsetBytes - 1) / charsetBytes) = need
          at full ⊢
        have enough : need * charsetBytes < overflow + charsetBytes := by
          have below : need ≤ (overflow.toNat + charsetBytes - 1) / charsetBytes := taken ▸ Nat.min_le_right _ _
          rw [four] at below ⊢
          omega
        have inside : need ≤ p := by
          have below : need ≤ p - minPrefixChars := taken ▸ Nat.min_le_left _ _
          omega
        by_cases done : overflow - ((part.bytes : Int) - ((p - need) * charsetBytes : Nat)) ≤ 0
        · rw [shrinkParts_of_nonpos done]
          simp only [planBytes, List.map_cons, List.sum_cons, bytes, four] at enough ⊢
          omega
        · have later := ih (Int.not_le.mp done) sized.2
          simp only [planBytes, List.map_cons, List.sum_cons, bytes, four] at later ⊢
          omega

theorem shrinkParts_changed_iff (overflow : Int) (plan : List PlanPart) :
    (shrinkParts overflow plan).2 = true ↔ (shrinkParts overflow plan).1 ≠ plan := by
  induction plan generalizing overflow with
  | nil => simp [shrinkParts]
  | cons part rest ih =>
    unfold shrinkParts
    by_cases fits : overflow ≤ 0
    · simp [if_pos fits]
    · rw [if_neg fits]
      cases asked : part.prefixChars with
      | none => simp [ih overflow]
      | some p =>
        dsimp only
        split_ifs with full
        · simp [ih overflow]
        · have taken := Nat.min_le_left (p - minPrefixChars) ((overflow.toNat + charsetBytes - 1) / charsetBytes)
          refine iff_of_true rfl ?_
          intro same
          have kept := congrArg PlanPart.prefixChars (List.cons.inj same).1
          rw [asked, Option.some.injEq] at kept
          omega

/-- A prefix of a plan that has come down to its least. -/
def PlanPart.AtLeast (part after : PlanPart) : Prop :=
  ∀ p, part.prefixChars = some p → after.prefixChars = some (min p minPrefixChars)

theorem PlanPart.ShortenedTo.atLeast {part after : PlanPart} (short : part.ShortenedTo after)
    (bytes : after.bytes = part.least) : part.AtLeast after := by
  intro p asked
  obtain ⟨q, kept, -, -, size⟩ := short.shortened p asked
  have four : 0 < charsetBytes := by decide
  rw [size, least, asked] at bytes
  rw [kept, Nat.eq_of_mul_eq_mul_right four bytes]

/-- A plan of as few bytes as its parts can have has every part at its least. -/
theorem atLeast_of_sum {plan after : List PlanPart} (short : List.Forall₂ PlanPart.ShortenedTo plan after)
    (bytes : planBytes after = (plan.map PlanPart.least).sum) : List.Forall₂ PlanPart.AtLeast plan after := by
  induction short with
  | nil => exact .nil
  | @cons part part' rest rest' first later ih =>
    have above := first.least_le
    have rest_above : (rest.map PlanPart.least).sum ≤ planBytes rest' := by
      clear ih bytes
      induction later with
      | nil => exact le_rfl
      | cons one _ more =>
        have one_above := one.least_le
        simp only [planBytes, List.map_cons, List.sum_cons] at more ⊢
        omega
    simp only [planBytes, List.map_cons, List.sum_cons] at bytes rest_above ih
    exact .cons (first.atLeast (by omega)) (ih (by omega))

/-- The loop leaves every part within its bounds, stops within a character of the budget or
with every prefix at its least, and tells whether it changed anything. -/
theorem fitKeyPrefixes_justEnough {plan : List PlanPart} (sized : ∀ part ∈ plan, part.Sized) :
    List.Forall₂ PlanPart.ShortenedTo plan (fitKeyPrefixes plan).1 ∧
      (planBytes (fitKeyPrefixes plan).1 ≤ 3072 ∨
        List.Forall₂ PlanPart.AtLeast plan (fitKeyPrefixes plan).1) ∧
      (3072 < planBytes plan → planBytes (fitKeyPrefixes plan).1 ≤ 3072 →
        3068 < planBytes (fitKeyPrefixes plan).1) ∧
      ((fitKeyPrefixes plan).2 = true ↔ (fitKeyPrefixes plan).1 ≠ plan) := by
  have budget : maxKeyBytes = 3072 := rfl
  have short : List.Forall₂ PlanPart.ShortenedTo plan (fitKeyPrefixes plan).1 := shrinkParts_shortened _ sized
  refine ⟨short, ?_, ?_, shrinkParts_changed_iff _ plan⟩
  · cases shrinkParts_bytes ((planBytes plan : Int) - maxKeyBytes) sized with
    | inl fits =>
      apply Or.inl
      unfold fitKeyPrefixes
      omega
    | inr least => exact .inr (atLeast_of_sum short least)
  · intro large fits
    have four : charsetBytes = 4 := rfl
    have positive : 0 < (planBytes plan : Int) - maxKeyBytes := by omega
    have taken := shrinkParts_taken positive sized
    unfold fitKeyPrefixes
    omega

/-- Two prefixes over the budget: the first gives up as many characters as are over. -/
def twoPrefixes : List PlanPart := [⟨"fullname", some 400, 1600⟩, ⟨"summary", some 400, 1600⟩, ⟨"id", none, 32⟩]

theorem twoPrefixes_justEnough : List.Forall₂ PlanPart.ShortenedTo twoPrefixes (fitKeyPrefixes twoPrefixes).1 ∧
    (planBytes (fitKeyPrefixes twoPrefixes).1 ≤ 3072 ∨
      List.Forall₂ PlanPart.AtLeast twoPrefixes (fitKeyPrefixes twoPrefixes).1) ∧
    (3072 < planBytes twoPrefixes → planBytes (fitKeyPrefixes twoPrefixes).1 ≤ 3072 →
      3068 < planBytes (fitKeyPrefixes twoPrefixes).1) ∧
    ((fitKeyPrefixes twoPrefixes).2 = true ↔ (fitKeyPrefixes twoPrefixes).1 ≠ twoPrefixes) := by
  apply fitKeyPrefixes_justEnough
  intro part mem p asked
  simp only [twoPrefixes, List.mem_cons, List.not_mem_nil, or_false] at mem
  obtain rfl | rfl | rfl := mem
  · cases asked
    rfl
  · cases asked
    rfl
  · cases asked

/-! ## The keys -/

section
variable {spec : IndexSpec} {coltypes : List (String × String)}

/-- The prefix that an index asks for on a column. -/
def requestedPrefix (spec : IndexSpec) (column : String) : Option Nat :=
  (lastValue column (spec.prefixes.filter (fun e => 0 < e.2))).map Int.toNat

/-- What the declared type of a column comes to; none for a type that needs a prefix. -/
def columnChars (coltypes : List (String × String)) (column : String) : Option Nat :=
  (lastValue column coltypes).bind keyChars

theorem planPart_eq (spec : IndexSpec) (coltypes : List (String × String)) (name : String) : planPart coltypes spec.prefixes name =
    match requestedPrefix spec name, columnChars coltypes name with
    | some p, _ => ⟨name, some p, p * charsetBytes⟩
    | none, none => ⟨name, some textPrefixChars, textPrefixChars * charsetBytes⟩
    | none, some chars => ⟨name, none, chars * charsetBytes⟩ := by
  unfold planPart requestedPrefix columnChars
  cases (lastValue name coltypes).bind keyChars <;>
    cases (lastValue name (spec.prefixes.filter (fun e => 0 < e.2))).map Int.toNat <;> rfl

theorem planPart_sized (name : String) : (planPart coltypes spec.prefixes name).Sized := by
  rw [planPart_eq]
  cases requestedPrefix spec name with
  | some q =>
    intro p asked
    cases asked
    rfl
  | none =>
    cases columnChars coltypes name with
    | none =>
      intro p asked
      cases asked
      rfl
    | some chars =>
      intro p asked
      cases asked

variable (spec coltypes) in
/-- The plan of an index before and after the loop. -/
def keyPlan : List PlanPart := (knownColumns spec coltypes).map (planPart coltypes spec.prefixes)

theorem keyPlan_sized (spec : IndexSpec) (coltypes : List (String × String)) : ∀ part ∈ keyPlan spec coltypes, part.Sized := by
  intro part mem
  obtain ⟨name, -, rfl⟩ := List.mem_map.mp mem
  exact planPart_sized name

/-- A key is made of the fitted plan of known columns. -/
theorem keyDef_eq_some_iff {key : KeyDef} : (keyDef spec coltypes).1 = some key ↔
    ∃ first rest, knownColumns spec coltypes = first :: rest ∧
      planBytes (fitKeyPrefixes (keyPlan spec coltypes)).1 ≤ maxKeyBytes ∧
      key = ⟨orElse spec.name first,
        spec.unique && !(fitKeyPrefixes (keyPlan spec coltypes)).1.any PlanPart.prefixed,
        (fitKeyPrefixes (keyPlan spec coltypes)).1.map PlanPart.part⟩ := by
  unfold keyDef keyPlan
  cases known : knownColumns spec coltypes with
  | nil => simp
  | cons first rest =>
    dsimp only
    by_cases large : maxKeyBytes < planBytes
        (fitKeyPrefixes ((first :: rest).map (planPart coltypes spec.prefixes))).1
    · rw [if_pos large]
      constructor
      · intro none
        cases none
      · rintro ⟨_, _, -, fits, -⟩
        omega
    · rw [if_neg large]
      constructor
      · intro same
        exact ⟨first, rest, rfl, Nat.not_lt.mp large, (Option.some.inj same).symm⟩
      · rintro ⟨_, _, same, -, rfl⟩
        rw [(List.cons.inj same).1]

/-- The bytes that a part of a key takes up. -/
def KeyPart.bytes (coltypes : List (String × String)) (part : KeyPart) : Nat :=
  match part.prefixChars with
  | some p => p * charsetBytes
  | none => (columnChars coltypes part.column).getD 0 * charsetBytes

/-- A part keys its column: through a prefix where the type needs one, and no prefix is
longer than what the index asks for, or the default. -/
structure KeyPart.Keys (spec : IndexSpec) (coltypes : List (String × String)) (name : String) (part : KeyPart) :
    Prop where
  column : part.column = name
  textual : ∀ type, lastValue name coltypes = some type → baseType type ∈ textualTypes → part.prefixChars.isSome
  bounded : ∀ p, part.prefixChars = some p → 0 < p ∧ p ≤ (requestedPrefix spec name).getD textPrefixChars

/-- A key on the known columns of an index in their order, within the budget. -/
structure KeyDef.Sound (spec : IndexSpec) (coltypes : List (String × String)) (key : KeyDef) : Prop where
  parts : List.Forall₂ (KeyPart.Keys spec coltypes) (knownColumns spec coltypes) key.parts
  budget : (key.parts.map (KeyPart.bytes coltypes)).sum ≤ maxKeyBytes
  unique : key.unique → spec.unique ∧ ∀ part ∈ key.parts, part.prefixChars = none

theorem requestedPrefix_pos {name : String} {p : Nat} (asked : requestedPrefix spec name = some p) : 0 < p := by
  obtain ⟨value, found, rfl⟩ := Option.map_eq_some_iff.mp asked
  obtain ⟨entry, last, rfl⟩ := Option.map_eq_some_iff.mp found
  have positive := (List.mem_filter.mp (List.mem_reverse.mp (List.mem_of_find?_eq_some last))).2
  rw [decide_eq_true_eq] at positive
  omega

theorem columnChars_textual {name type : String} (known : lastValue name coltypes = some type)
    (textual : baseType type ∈ textualTypes) : columnChars coltypes name = none := by
  rw [columnChars, known, Option.bind_some, keyChars, if_pos textual]

/-- What the loop makes of the part of a column. -/
theorem keys_of_shortened {name : String} {after : PlanPart}
    (short : (planPart coltypes spec.prefixes name).ShortenedTo after) :
    KeyPart.Keys spec coltypes name after.part ∧ after.part.bytes coltypes = after.bytes := by
  have column : after.column = name := short.column.trans (Staging.planPart_column spec.prefixes name)
  have floor : 0 < minPrefixChars := by decide
  have ofPrefix : ∀ p, (planPart coltypes spec.prefixes name).prefixChars = some p → 0 < p →
      p ≤ (requestedPrefix spec name).getD textPrefixChars →
      KeyPart.Keys spec coltypes name after.part ∧ after.part.bytes coltypes = after.bytes := by
    intro p asked positive below
    obtain ⟨q, fitted, shorter, least, bytes⟩ := short.shortened p asked
    have kept : after.part.prefixChars = some q := by
      have positive : q ≠ 0 := by omega
      simp [PlanPart.part, fitted, positive]
    refine ⟨⟨column, ?_, ?_⟩, ?_⟩
    · intro _ _ _
      rw [kept]
      rfl
    · intro r same
      rw [kept, Option.some.injEq] at same
      omega
    · rw [KeyPart.bytes, kept, bytes]
  have shape := planPart_eq spec coltypes name
  cases asked : requestedPrefix spec name with
  | some p =>
    rw [asked] at shape
    apply ofPrefix p
    · rw [shape]
    · exact requestedPrefix_pos asked
    · rw [asked]
      rfl
  | none =>
    cases chars : columnChars coltypes name with
    | none =>
      rw [asked, chars] at shape
      apply ofPrefix textPrefixChars
      · rw [shape]
      · decide
      · rw [asked]
        rfl
    | some n =>
      rw [asked, chars] at shape
      have same : after = ⟨name, none, n * charsetBytes⟩ := by
        rw [short.whole (by rw [shape]), shape]
      rw [same]
      refine ⟨⟨rfl, ?_, ?_⟩, ?_⟩
      · intro type known textual
        rw [columnChars_textual known textual] at chars
        cases chars
      · intro p none
        cases none
      · simp [KeyPart.bytes, PlanPart.part, chars]

theorem keyDef_sound {key : KeyDef} (made : (keyDef spec coltypes).1 = some key) : key.Sound spec coltypes := by
  obtain ⟨first, rest, -, fits, rfl⟩ := keyDef_eq_some_iff.mp made
  have short := shrinkParts_shortened ((planBytes (keyPlan spec coltypes) : Int) - maxKeyBytes)
    (keyPlan_sized spec coltypes)
  have parts : List.Forall₂ (fun name (after : PlanPart) =>
      KeyPart.Keys spec coltypes name after.part ∧ after.part.bytes coltypes = after.bytes)
      (knownColumns spec coltypes) (fitKeyPrefixes (keyPlan spec coltypes)).1 :=
    (List.forall₂_map_left_iff.mp short).imp (fun _ _ => keys_of_shortened)
  refine ⟨List.forall₂_map_right_iff.mpr (parts.imp (fun _ _ both => both.1)), ?_, ?_⟩
  · have bytes : ∀ after ∈ (fitKeyPrefixes (keyPlan spec coltypes)).1,
        after.part.bytes coltypes = after.bytes := by
      intro after mem
      obtain ⟨_, -, -, same⟩ := Fallible.exists_related parts.flip mem
      exact same
    have total : ((fitKeyPrefixes (keyPlan spec coltypes)).1.map PlanPart.part).map (KeyPart.bytes coltypes) =
        (fitKeyPrefixes (keyPlan spec coltypes)).1.map PlanPart.bytes := by
      rw [List.map_map]
      exact List.map_congr_left bytes
    rw [total]
    exact fits
  · intro unique
    rw [Bool.and_eq_true, Bool.not_eq_true', List.any_eq_false] at unique
    refine ⟨unique.1, ?_⟩
    intro part mem
    obtain ⟨after, there, rfl⟩ := List.mem_map.mp mem
    simpa [PlanPart.prefixed] using unique.2 after there

/-- What `index_definition` writes is nothing or a sound key. -/
theorem indexDefinition_sound (spec : IndexSpec) (coltypes : List (String × String)) (dialect : String) :
    (indexDefinition spec coltypes dialect).1 = "" ∨
      ∃ key : KeyDef, key.Sound spec coltypes ∧ (indexDefinition spec coltypes dialect).1 = key.sql dialect := by
  cases made : (keyDef spec coltypes).1 with
  | none =>
    apply Or.inl
    simp [indexDefinition, made]
  | some key =>
    apply Or.inr
    refine ⟨key, keyDef_sound made, ?_⟩
    simp [indexDefinition, made]

/-! ## What is left out -/

/-- The fewest bytes that a column takes up: a prefix may be shortened, a column whose
index asks for no prefix and whose type needs none may not. -/
def leastBytes (spec : IndexSpec) (coltypes : List (String × String)) (name : String) : Nat :=
  match requestedPrefix spec name, columnChars coltypes name with
  | some p, _ => min p minPrefixChars * charsetBytes
  | none, none => minPrefixChars * charsetBytes
  | none, some chars => chars * charsetBytes

theorem planPart_least (name : String) : (planPart coltypes spec.prefixes name).least = leastBytes spec coltypes name := by
  rw [planPart_eq, leastBytes]
  cases requestedPrefix spec name with
  | some p => rfl
  | none => cases columnChars coltypes name <;> rfl

theorem KeyDef.sql_ne_empty (key : KeyDef) (dialect : String) : key.sql dialect ≠ "" := by
  intro empty
  have pieces : toString " (" = "" := by
    simp only [KeyDef.sql, String.append_eq_empty_iff] at empty
    exact empty.1.1.2
  exact absurd pieces (by decide)

/-- A key comes out exactly where the index names a column of the table and its columns
fit at their least. -/
theorem indexDefinition_written_iff (spec : IndexSpec) (coltypes : List (String × String)) (dialect : String) :
    (indexDefinition spec coltypes dialect).1 ≠ "" ↔ knownColumns spec coltypes ≠ [] ∧
      ((knownColumns spec coltypes).map (leastBytes spec coltypes)).sum ≤ maxKeyBytes := by
  have least : (keyPlan spec coltypes).map PlanPart.least =
      (knownColumns spec coltypes).map (leastBytes spec coltypes) := by
    rw [keyPlan, List.map_map]
    exact List.map_congr_left (fun name _ => planPart_least name)
  rw [← least, ← fitKeyPrefixes_fits_iff (keyPlan_sized spec coltypes)]
  cases made : (keyDef spec coltypes).1 with
  | none =>
    have written : (indexDefinition spec coltypes dialect).1 = "" := by
      simp [indexDefinition, made]
    simp only [written, ne_eq, not_true_eq_false, false_iff]
    rintro ⟨some_column, fits⟩
    obtain ⟨first, rest, known⟩ := List.exists_cons_of_ne_nil some_column
    have there := keyDef_eq_some_iff.mpr ⟨first, rest, known, fits, rfl⟩
    rw [made] at there
    cases there
  | some key =>
    have written : (indexDefinition spec coltypes dialect).1 = key.sql dialect := by
      simp [indexDefinition, made]
    obtain ⟨first, rest, known, fits, -⟩ := keyDef_eq_some_iff.mp made
    rw [written, known]
    exact ⟨fun _ => ⟨List.cons_ne_nil first rest, fits⟩, fun _ => KeyDef.sql_ne_empty key dialect⟩

end

def wideColumn : IndexSpec := ⟨some "name_ix", false, false, ["fullname"], []⟩

/-- A wide VARCHAR gets no prefix of its own, so the index on it is left out. -/
theorem wideColumn_leftOut : knownColumns wideColumn [("fullname", "varchar(1000)")] = ["fullname"] ∧
    baseType "varchar(1000)" = "varchar" ∧
    (indexDefinition wideColumn [("fullname", "varchar(1000)")] "mysql").1 = "" := by
  decide +kernel

end XpBuilder.TableSchema
