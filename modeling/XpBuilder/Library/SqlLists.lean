import XpBuilder.Library.SqlTokens

/-! Lists between parentheses as MariaDB reads them. A comma separates two items, and a closing
parenthesis ends the list, where no inner parenthesis, no quote and no comment is open. -/

namespace XpBuilder.SqlLists
open SqlTokens (apostrophe backtick)

/-- What the reader is in the middle of; two marks `-` or a slash may begin a comment. -/
inductive Mode where
  | code | dash | dashes | slash
  | quoted (quote : Char)
  | escaped (quote : Char)
  | line | block | star
  deriving DecidableEq, Repr

/-- Nothing is open. -/
def Mode.isCode : Mode → Bool
  | .code | .dash | .dashes | .slash => true
  | _ => false

def isQuote (c : Char) : Bool := c = apostrophe || c = '"' || c = backtick

def isControl (c : Char) : Bool := c.toNat ≤ 32 || c.toNat = 127

/-- A character where nothing is open. -/
def begin (m : Mode) (c : Char) : Mode :=
  if m = .dashes && isControl c then (if c = '\n' then .code else .line)
  else if m = .slash && c = '*' then .block
  else if c = '#' then .line
  else if isQuote c then .quoted c
  else if c = '-' then (if m = .dash || m = .dashes then .dashes else .dash)
  else if c = '/' then .slash
  else .code

def step (m : Mode) (c : Char) : Mode :=
  match m with
  | .code | .dash | .dashes | .slash => begin m c
  | .quoted q => if c = q then .code else if c = '\\' && q ≠ backtick then .escaped q else .quoted q
  | .escaped q => .quoted q
  | .line => if c = '\n' then .code else .line
  | .block => if c = '*' then .star else .block
  | .star => if c = '/' then .code else if c = '*' then .star else .block

/-- The inner parentheses that are open after a character. -/
def depth (m : Mode) (d : Nat) (c : Char) : Nat :=
  if m.isCode then (if c = '(' then d + 1 else if c = ')' then d - 1 else d) else d

/-- The items of a list and what is behind it; `item` is the part of the item that is read already. -/
def readList : Mode → Nat → List Char → List Char → Option (List (List Char) × List Char)
  | _, _, _, [] => none
  | m, d, item, c :: cs =>
    if m.isCode && d = 0 && c = ')' then some ([item], cs)
    else if m.isCode && d = 0 && c = ',' then (readList .code 0 [] cs).map (fun r => (item :: r.1, r.2))
    else readList (step m c) (depth m d c) (item ++ [c]) cs

/-- The mode and the depth after a part of an item. -/
def walk : Mode → Nat → List Char → Option (Mode × Nat)
  | m, d, [] => some (m, d)
  | m, d, c :: cs =>
    if m.isCode && d = 0 && (c = ')' || c = ',') then none else walk (step m c) (depth m d c) cs

/-- The text is one item: it leaves nothing open, and nothing in it ends an item. -/
def Whole (item : List Char) : Prop := ∃ m, walk .code 0 item = some (m, 0) ∧ m.isCode

/-- Items with commas between them. -/
def joined : List (List Char) → List Char
  | [] => []
  | [item] => item
  | item :: next :: rest => item ++ ',' :: joined (next :: rest)

theorem walk_append (m : Mode) (d : Nat) (a b : List Char) :
    walk m d (a ++ b) = (walk m d a).bind (fun s => walk s.1 s.2 b) := by
  induction a generalizing m d with
  | nil => rfl
  | cons c cs ih =>
    rw [List.cons_append, walk, walk]
    split_ifs with ends
    · rfl
    · exact ih (step m c) (depth m d c)

theorem walk_mode {m m' : Mode} {d d' : Nat} {a : List Char} (walked : walk m d a = some (m', d')) :
    a.foldl step m = m' := by
  induction a generalizing m d with
  | nil => exact (Prod.mk.inj (Option.some.inj walked)).1
  | cons c cs ih =>
    rw [walk] at walked
    split_ifs at walked
    exact ih walked

theorem readList_walk {m m' : Mode} {d d' : Nat} {a : List Char} (walked : walk m d a = some (m', d'))
    (item b : List Char) : readList m d item (a ++ b) = readList m' d' (item ++ a) b := by
  induction a generalizing m d item with
  | nil =>
    obtain ⟨rfl, rfl⟩ := Prod.mk.inj (Option.some.inj walked)
    rw [List.nil_append, List.append_nil]
  | cons c cs ih =>
    rw [walk] at walked
    split_ifs at walked with ends
    have open_paren : (m.isCode && d = 0 && c = ')') = false := by
      by_contra close
      simp_all
    have open_comma : (m.isCode && d = 0 && c = ',') = false := by
      by_contra comma
      simp_all
    rw [List.cons_append, readList, open_paren, open_comma, if_neg Bool.false_ne_true, if_neg Bool.false_ne_true,
      ih walked, List.append_assoc, List.singleton_append]

/-- The first item that is read, and what ends it. -/
theorem of_readList {m : Mode} {d : Nat} {item text first rest : List Char} {items : List (List Char)}
    (read : readList m d item text = some (first :: items, rest)) :
    ∃ a m', first = item ++ a ∧ walk m d a = some (m', 0) ∧ m'.isCode ∧
      ((items = [] ∧ text = a ++ ')' :: rest) ∨ ∃ b, text = a ++ ',' :: b ∧ readList .code 0 [] b = some (items, rest)) := by
  induction text generalizing m d item with
  | nil => cases read
  | cons c cs ih =>
    rw [readList] at read
    split_ifs at read with close comma
    · simp only [Bool.and_eq_true, decide_eq_true_eq] at close
      simp only [Option.some.injEq, Prod.mk.injEq, List.cons.injEq] at read
      obtain ⟨⟨rfl, rfl⟩, rfl⟩ := read
      obtain ⟨⟨code, rfl⟩, rfl⟩ := close
      exact ⟨[], m, (List.append_nil _).symm, rfl, code, .inl ⟨rfl, rfl⟩⟩
    · simp only [Bool.and_eq_true, decide_eq_true_eq] at comma
      obtain ⟨r, later, same⟩ := Option.map_eq_some_iff.mp read
      simp only [Prod.mk.injEq, List.cons.injEq] at same
      obtain ⟨⟨rfl, rfl⟩, rfl⟩ := same
      obtain ⟨⟨code, rfl⟩, rfl⟩ := comma
      exact ⟨[], m, (List.append_nil _).symm, rfl, code, .inr ⟨cs, rfl, later⟩⟩
    · obtain ⟨a, m', rfl, walked, code, ends⟩ := ih read
      have go : ¬(m.isCode && d = 0 && (c = ')' || c = ',')) = true := by
        intro stop
        simp_all
      refine ⟨c :: a, m', by simp, by rw [walk, if_neg go, walked], code, ?_⟩
      rcases ends with ⟨last, rfl⟩ | ⟨b, rfl, later⟩
      · exact .inl ⟨last, rfl⟩
      · exact .inr ⟨b, rfl, later⟩

/-- Joined texts are read as the items they are exactly where each of them is one. -/
theorem readList_joined_iff {items : List (List Char)} (some_item : items ≠ []) (rest : List Char) :
    readList .code 0 [] (joined items ++ ')' :: rest) = some (items, rest) ↔ ∀ item ∈ items, Whole item := by
  induction items with
  | nil => exact absurd rfl some_item
  | cons item more ih =>
    cases more with
    | nil =>
      rw [joined, List.forall_mem_singleton]
      constructor
      · intro read
        obtain ⟨a, m, rfl, walked, code, -⟩ := of_readList read
        exact ⟨m, walked, code⟩
      · rintro ⟨m, walked, code⟩
        rw [readList_walk walked, readList, if_pos (by simp [code])]
        rfl
    | cons next more =>
      have later := ih (List.cons_ne_nil next more)
      rw [joined, List.append_assoc, List.cons_append, List.forall_mem_cons, ← later]
      constructor
      · intro read
        obtain ⟨a, m, rfl, walked, code, ends⟩ := of_readList read
        refine ⟨⟨m, walked, code⟩, ?_⟩
        rcases ends with ⟨last, -⟩ | ⟨b, same, tail⟩
        · cases last
        · have behind := List.append_cancel_left same
          rw [(List.cons.inj behind).2]
          exact tail
      · rintro ⟨⟨m, walked, code⟩, tail⟩
        rw [readList_walk walked, readList, if_neg (by simp), if_pos (by simp [code]), tail]
        rfl

/-! ## Texts of simple characters -/

/-- A character that opens and ends nothing. -/
def isPlain (c : Char) : Bool :=
  !(isQuote c || c = '#' || c = '-' || c = '/' || c = '(' || c = ')' || c = ',')

theorem begin_plain {m : Mode} {c : Char} (plain : isPlain c) (slash : m ≠ .slash) (calm : m = .dashes → isControl c = false) :
    begin m c = .code := by
  simp only [isPlain, Bool.not_eq_true', Bool.or_eq_false_iff, decide_eq_false_iff_not] at plain
  obtain ⟨⟨⟨⟨⟨⟨quote, hash⟩, mark⟩, bar⟩, -⟩, -⟩, -⟩ := plain
  unfold begin
  by_cases dashes : m = .dashes
  · simp [dashes, calm dashes, quote, hash, mark, bar]
  · simp [dashes, slash, quote, hash, mark, bar]

theorem depth_plain {m : Mode} {d : Nat} {c : Char} (plain : c ≠ '(' ∧ c ≠ ')') : depth m d c = d := by
  unfold depth
  rw [if_neg plain.1, if_neg plain.2, ite_self]

theorem walk_plain {a : List Char} (plain : ∀ c ∈ a, isPlain c) (d : Nat) : walk .code d a = some (.code, d) := by
  induction a with
  | nil => rfl
  | cons c cs ih =>
    rw [List.forall_mem_cons] at plain
    have stepped : step .code c = .code := begin_plain plain.1 Mode.noConfusion Mode.noConfusion
    have here := plain.1
    simp only [isPlain, Bool.not_eq_true', Bool.or_eq_false_iff, decide_eq_false_iff_not] at here
    rw [walk, stepped, depth_plain ⟨here.1.1.2, here.1.2⟩, if_neg (by simp [here.1.2, here.2]), ih plain.2]

/-- Marks `-` between characters that are no blanks begin no comment. -/
theorem walk_marks {m : Mode} {a : List Char} (start : m = .code ∨ m = .dash ∨ m = .dashes)
    (marks : ∀ c ∈ a, (isPlain c ∧ isControl c = false) ∨ c = '-') (d : Nat) :
    ∃ m', walk m d a = some (m', d) ∧ (m' = .code ∨ m' = .dash ∨ m' = .dashes) := by
  induction a generalizing m with
  | nil => exact ⟨m, rfl, start⟩
  | cons c cs ih =>
    rw [List.forall_mem_cons] at marks
    have stepped : step m c = begin m c := by
      rcases start with rfl | rfl | rfl <;> rfl
    have next : step m c = .code ∨ step m c = .dash ∨ step m c = .dashes := by
      rw [stepped]
      rcases marks.1 with ⟨plain, calm⟩ | rfl
      · left
        apply begin_plain plain
        · rcases start with rfl | rfl | rfl <;> exact Mode.noConfusion
        · exact fun _ => calm
      · rcases start with rfl | rfl | rfl <;> decide
    have ordinary : c ≠ '(' ∧ c ≠ ')' ∧ c ≠ ',' := by
      rcases marks.1 with ⟨plain, -⟩ | rfl
      · simp only [isPlain, Bool.not_eq_true', Bool.or_eq_false_iff, decide_eq_false_iff_not] at plain
        exact ⟨plain.1.1.2, plain.1.2, plain.2⟩
      · decide
    obtain ⟨m', walked, last⟩ := ih next marks.2
    refine ⟨m', ?_, last⟩
    rw [walk, depth_plain ⟨ordinary.1, ordinary.2.1⟩, if_neg (by simp [ordinary.2.1, ordinary.2.2]), walked]

theorem step_quoted {q c : Char} (inner : c ≠ q ∧ c ≠ '\\') : step (.quoted q) c = .quoted q := by
  simp [step, inner]

theorem depth_quoted (q : Char) (d : Nat) (c : Char) : depth (.quoted q) d c = d := rfl

theorem foldl_quoted {q : Char} {a : List Char} (inner : ∀ c ∈ a, c ≠ q ∧ c ≠ '\\') :
    a.foldl step (.quoted q) = .quoted q := by
  induction a with
  | nil => rfl
  | cons c cs ih =>
    rw [List.forall_mem_cons] at inner
    rw [List.foldl_cons, step_quoted inner.1, ih inner.2]

theorem foldl_line {a : List Char} (one_line : '\n' ∉ a) : a.foldl step .line = .line := by
  induction a with
  | nil => rfl
  | cons c cs ih =>
    rw [List.mem_cons, not_or] at one_line
    have stepped : step .line c = .line := by simp [step, Ne.symm one_line.1]
    rw [List.foldl_cons, stepped, ih one_line.2]

theorem walk_quoted {q : Char} {a : List Char} (inner : ∀ c ∈ a, c ≠ q ∧ c ≠ '\\') (d : Nat) :
    walk (.quoted q) d a = some (.quoted q, d) := by
  induction a with
  | nil => rfl
  | cons c cs ih =>
    rw [List.forall_mem_cons] at inner
    rw [walk, step_quoted inner.1, depth_quoted, ih inner.2]
    rfl

/-- A quoted text, with what is read before and after it as code. -/
theorem walk_between {q : Char} {m : Mode} {a : List Char} (quote : isQuote q) (start : m = .code)
    (inner : ∀ c ∈ a, c ≠ q ∧ c ≠ '\\') (d : Nat) : walk m d (q :: (a ++ [q])) = some (.code, d) := by
  subst start
  have opened : step .code q = .quoted q := by
    unfold isQuote at quote
    simp only [Bool.or_eq_true, decide_eq_true_eq] at quote
    rcases quote with (rfl | rfl) | rfl <;> decide
  have ordinary : q ≠ '(' ∧ q ≠ ')' ∧ q ≠ ',' := by
    unfold isQuote at quote
    simp only [Bool.or_eq_true, decide_eq_true_eq] at quote
    rcases quote with (rfl | rfl) | rfl <;> decide
  have closed : walk (.quoted q) d [q] = some (.code, d) := by simp [walk, step, depth, Mode.isCode]
  rw [walk, opened, depth_plain ⟨ordinary.1, ordinary.2.1⟩, if_neg (by simp [ordinary.2.1, ordinary.2.2]), walk_append,
    walk_quoted inner, Option.bind_some, closed]

/-- Between parentheses nothing ends an item. -/
theorem walk_inside {a : List Char} (flat : '(' ∉ a ∧ ')' ∉ a) (m : Mode) (d : Nat) :
    walk m (d + 1) a = some (a.foldl step m, d + 1) := by
  induction a generalizing m with
  | nil => rfl
  | cons c cs ih =>
    simp only [List.mem_cons, not_or] at flat
    rw [walk, depth_plain ⟨Ne.symm flat.1.1, Ne.symm flat.2.1⟩, if_neg (by simp), ih ⟨flat.1.2, flat.2.2⟩, List.foldl_cons]

/-- An apostrophe that is not the end of a text leaves something open. -/
theorem step_apostrophe {m : Mode} (other : m ≠ .quoted apostrophe) : (step m apostrophe).isCode = false := by
  cases m with
  | code => decide
  | dash => decide
  | dashes => decide
  | slash => decide
  | quoted q =>
    have apart : apostrophe ≠ q := fun same => other (by rw [same])
    simp [step, apart, Mode.isCode, show apostrophe ≠ '\\' by decide]
  | escaped q => rfl
  | line => decide
  | block => decide
  | star => decide

/-- Without an apostrophe no text between apostrophes is opened. -/
theorem foldl_other {m : Mode} {a : List Char} (other : m ≠ .quoted apostrophe ∧ m ≠ .escaped apostrophe)
    (none : apostrophe ∉ a) : a.foldl step m ≠ .quoted apostrophe ∧ a.foldl step m ≠ .escaped apostrophe := by
  induction a generalizing m with
  | nil => exact other
  | cons c cs ih =>
    rw [List.mem_cons, not_or] at none
    have opens : ∀ m, begin m c ≠ .quoted apostrophe ∧ begin m c ≠ .escaped apostrophe := by
      intro m
      unfold begin
      split_ifs <;> simp [Ne.symm none.1]
    refine ih ?_ none.2
    cases m with
    | code => exact opens .code
    | dash => exact opens .dash
    | dashes => exact opens .dashes
    | slash => exact opens .slash
    | quoted q =>
      have apart : q ≠ apostrophe := fun same => other.1 (by rw [same])
      simp only [step]
      split_ifs <;> simp [apart]
    | escaped q =>
      have apart : q ≠ apostrophe := fun same => other.2 (by rw [same])
      simp [step, apart]
    | line =>
      simp only [step]
      split_ifs <;> simp
    | block =>
      simp only [step]
      split_ifs <;> simp
    | star =>
      simp only [step]
      split_ifs <;> simp

/-! ## The words of an item -/

def isWordChar (c : Char) : Bool := SqlTokens.isWord c || 128 ≤ c.toNat

/-- The letters of an item, outside of its quotes, comments and parentheses. -/
def shown : Mode → Nat → List Char → List Char
  | _, _, [] => []
  | m, d, c :: cs => (if m.isCode && d = 0 && isWordChar c then c else ' ') :: shown (step m c) (depth m d c) cs

def words (text : List Char) : List (List Char) := (text.splitOnP (fun c => c = ' ')).filter (fun w => w ≠ [])

theorem shown_append {m m' : Mode} {d d' : Nat} {a : List Char} (walked : walk m d a = some (m', d')) (b : List Char) :
    shown m d (a ++ b) = shown m d a ++ shown m' d' b := by
  induction a generalizing m d with
  | nil =>
    obtain ⟨rfl, rfl⟩ := Prod.mk.inj (Option.some.inj walked)
    rfl
  | cons c cs ih =>
    rw [walk] at walked
    split_ifs at walked
    rw [List.cons_append, shown, shown, ih walked, List.cons_append]

theorem words_blank (a b : List Char) : words (a ++ ' ' :: b) = words a ++ words b := by
  unfold words
  rw [List.splitOnP_append_cons _ _ (by rfl), List.filter_append]

end XpBuilder.SqlLists
