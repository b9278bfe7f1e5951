import Mathlib.Data.List.Basic

/-! Markup in the manner of XML: tags that are opened and closed, and references that stand for
characters. A reader takes one character at a time and fails on what is not well formed. A text
that is read as itself has no tag and no reference, since each of them is longer than what it adds. -/

namespace XpBuilder

/-- The tags and the references that a reader knows. -/
structure Markup where
  known : List Char → Bool
  entity : List Char → Option (List Char)
  shorter : ∀ name text, entity name = some text → text.length < name.length + 2

namespace Markup

/-- Where a reader is: in the text, behind a `<`, behind a `&`. -/
inductive Place where
  | text
  | tag (inner : List Char)
  | reference (name : List Char)
  deriving DecidableEq, Repr

/-- How much was read since the text was left. -/
def Place.pending : Place → Nat
  | .text => 0
  | .tag inner => inner.length + 1
  | .reference name => name.length + 1

structure Reader where
  place : Place
  out : List Char
  opened : List (List Char)
  deriving DecidableEq, Repr

variable (M : Markup)

/-- What a tag does at its end. -/
def endTag (r : Reader) (inner : List Char) : Option Reader :=
  let name := inner.takeWhile Char.isAlphanum
  if inner.head? = some '/' then
    if r.opened.head? = some inner.tail then some ⟨.text, r.out, r.opened.tail⟩ else none
  else if M.known name = false then none
  else if inner.getLast? = some '/' then some ⟨.text, r.out, r.opened⟩
  else some ⟨.text, r.out, name :: r.opened⟩

def step (r : Reader) (c : Char) : Option Reader :=
  match r.place with
  | .text =>
    if c = '<' then some ⟨.tag [], r.out, r.opened⟩
    else if c = '&' then some ⟨.reference [], r.out, r.opened⟩
    else some ⟨.text, r.out ++ [c], r.opened⟩
  | .tag inner =>
    if c = '>' then M.endTag r inner
    else if c = '<' then none
    else some ⟨.tag (inner ++ [c]), r.out, r.opened⟩
  | .reference name =>
    if c = ';' then (M.entity name).map (fun text => ⟨.text, r.out ++ text, r.opened⟩)
    else if c.isAlphanum || c = '#' then some ⟨.reference (name ++ [c]), r.out, r.opened⟩
    else none

def run (r : Reader) : List Char → Option Reader
  | [] => some r
  | c :: cs => (M.step r c).bind (fun r => run r cs)

/-- All tags have to be closed at the end. -/
def finish (r : Reader) : Option (List Char) := if r.place = .text ∧ r.opened = [] then some r.out else none

def read (markup : List Char) : Option (List Char) := (M.run ⟨.text, [], []⟩ markup).bind finish

/-- Without what begins a tag or a reference. -/
def Plain (text : List Char) : Prop := '<' ∉ text ∧ '&' ∉ text

instance (text : List Char) : Decidable (Plain text) := by
  unfold Plain
  infer_instance

theorem plain_append {front back : List Char} : Plain (front ++ back) ↔ Plain front ∧ Plain back := by
  simp only [Plain, List.mem_append, not_or]
  tauto

theorem plain_flatten {parts : List (List Char)} : Plain parts.flatten ↔ ∀ part ∈ parts, Plain part := by
  induction parts with
  | nil => simp [Plain]
  | cons part parts ih => rw [List.flatten_cons, plain_append, ih, List.forall_mem_cons]

/-- Between the parts there is a plain text. -/
theorem plain_intercalate {sep : List Char} (plain : Plain sep) (parts : List (List Char)) :
    Plain (sep.intercalate parts) ↔ ∀ part ∈ parts, Plain part := by
  induction parts with
  | nil => simp [Plain]
  | cons part parts ih =>
    cases parts with
    | nil => simp
    | cons next parts =>
      rw [List.intercalate_cons_cons, plain_append, plain_append, ih, List.forall_mem_cons]
      simp [plain]

variable {M}

theorem run_append (r : Reader) (front back : List Char) :
    M.run r (front ++ back) = (M.run r front).bind (fun r => M.run r back) := by
  induction front generalizing r with
  | nil => rfl
  | cons c front ih =>
    rw [List.cons_append, run, run, Option.bind_assoc]
    apply congrArg (Option.bind (M.step r c))
    funext r'
    exact ih r'

/-! ## Plain text -/

theorem run_plain {text : List Char} (plain : Plain text) (out : List Char) (opened : List (List Char)) :
    M.run ⟨.text, out, opened⟩ text = some ⟨.text, out ++ text, opened⟩ := by
  induction text generalizing out with
  | nil => rw [List.append_nil]; rfl
  | cons c text ih =>
    simp only [Plain, List.mem_cons, not_or] at plain
    have first : M.step ⟨.text, out, opened⟩ c = some ⟨.text, out ++ [c], opened⟩ := by
      rw [step, if_neg (Ne.symm plain.1.1), if_neg (Ne.symm plain.2.1)]
    rw [run, first, Option.bind_some, ih ⟨plain.1.2, plain.2.2⟩, List.append_assoc, List.singleton_append]

/-! ## What is lost -/

/-- The characters that a reader has put out or may still put out. -/
def Reader.weight (r : Reader) : Nat := r.out.length + r.place.pending

theorem endTag_weight {r r' : Reader} {inner : List Char} (ended : M.endTag r inner = some r') :
    r'.place = .text ∧ r'.out = r.out := by
  unfold endTag at ended
  dsimp only at ended
  split_ifs at ended <;> cases ended <;> exact ⟨rfl, rfl⟩

/-- The step that comes back to the text has lost a character at least. -/
theorem weight_back {r r' : Reader} {c : Char} (left : r.place ≠ .text) (stepped : M.step r c = some r') :
    (r'.place ≠ .text ∧ r'.weight = r.weight + 1) ∨ (r'.place = .text ∧ r'.weight ≤ r.weight) := by
  obtain ⟨place, out, opened⟩ := r
  cases place with
  | text => exact absurd rfl left
  | tag inner =>
    simp only [step] at stepped
    split_ifs at stepped
    · have back := endTag_weight stepped
      right
      simp [Reader.weight, back.1, back.2, Place.pending]
    · cases stepped
      left
      simp [Reader.weight, Place.pending]
      omega
  | reference name =>
    simp only [step] at stepped
    split_ifs at stepped
    · obtain ⟨text, known, rfl⟩ := Option.map_eq_some_iff.mp stepped
      have short := M.shorter name text known
      right
      simp [Reader.weight, Place.pending]
      omega
    · cases stepped
      left
      simp [Reader.weight, Place.pending]
      omega

theorem weight_step {r r' : Reader} {c : Char} (stepped : M.step r c = some r') : r'.weight ≤ r.weight + 1 := by
  by_cases left : r.place = .text
  · obtain ⟨place, out, opened⟩ := r
    cases left
    simp only [step] at stepped
    split_ifs at stepped <;> cases stepped <;> simp [Reader.weight, Place.pending]
  · cases weight_back left stepped with
    | inl on => omega
    | inr back => omega

theorem weight_run {r r' : Reader} {cs : List Char} (ran : M.run r cs = some r') :
    r'.weight ≤ r.weight + cs.length := by
  induction cs generalizing r with
  | nil =>
    cases ran
    simp
  | cons c cs ih =>
    obtain ⟨next, stepped, behind⟩ := Option.bind_eq_some_iff.mp ran
    have first := weight_step stepped
    have later := ih behind
    rw [List.length_cons]
    omega

/-- A run that comes back to the text. -/
theorem weight_run_back {r r' : Reader} {cs : List Char} (left : r.place ≠ .text) (back : r'.place = .text)
    (ran : M.run r cs = some r') : r'.weight < r.weight + cs.length := by
  induction cs generalizing r with
  | nil =>
    cases ran
    exact absurd back left
  | cons c cs ih =>
    obtain ⟨next, stepped, behind⟩ := Option.bind_eq_some_iff.mp ran
    rw [List.length_cons]
    cases weight_back left stepped with
    | inl on =>
      have later := ih on.1 behind
      omega
    | inr back =>
      have later := weight_run behind
      omega

/-- Between two places in the text only plain characters are kept all. -/
theorem plain_of_length {out out' cs : List Char} {opened opened' : List (List Char)}
    (ran : M.run ⟨.text, out, opened⟩ cs = some ⟨.text, out', opened'⟩)
    (kept : out.length + cs.length ≤ out'.length) : Plain cs := by
  induction cs generalizing out opened with
  | nil => simp [Plain]
  | cons c cs ih =>
    obtain ⟨next, stepped, behind⟩ := Option.bind_eq_some_iff.mp ran
    rw [List.length_cons] at kept
    by_cases mark : c = '<' ∨ c = '&'
    · have left : next.place ≠ .text ∧ next.weight = out.length + 1 := by
        cases mark with
        | inl lt =>
          simp only [step, lt, if_true] at stepped
          cases stepped
          simp [Reader.weight, Place.pending]
        | inr amp =>
          have other : ('&' : Char) ≠ '<' := by decide
          simp only [step, amp, if_neg other, if_true] at stepped
          cases stepped
          simp [Reader.weight, Place.pending]
      have lost := weight_run_back left.1 rfl behind
      simp only [Reader.weight, Place.pending] at lost left
      omega
    · rw [not_or] at mark
      simp only [step, mark.1, mark.2, if_false] at stepped
      cases stepped
      have rest := ih behind (by simp; omega)
      simp only [Plain, List.mem_cons, not_or]
      exact ⟨⟨Ne.symm mark.1, rest.1⟩, Ne.symm mark.2, rest.2⟩

/-! ## Texts that are read as themselves -/

theorem finish_eq_some {r : Reader} {text : List Char} (done : finish r = some text) :
    r = ⟨.text, text, []⟩ := by
  unfold finish at done
  split_ifs at done with closed
  obtain ⟨place, out, opened⟩ := r
  obtain ⟨rfl, rfl⟩ := closed
  cases done
  rfl

theorem read_eq_self_iff (text : List Char) : M.read text = some text ↔ Plain text := by
  constructor
  · intro same
    obtain ⟨r, ran, done⟩ := Option.bind_eq_some_iff.mp same
    rw [finish_eq_some done] at ran
    exact plain_of_length ran (by simp)
  · intro plain
    rw [read, run_plain plain]
    rfl

/-- A text between a tag and its end. -/
def enclosed (name text : List Char) : List Char := '<' :: (name ++ ['>']) ++ text ++ '<' :: '/' :: (name ++ ['>'])

theorem run_tag {name inner out : List Char} {opened : List (List Char)} (letters : ∀ c ∈ name, c.isAlphanum = true) :
    M.run ⟨.tag inner, out, opened⟩ (name ++ ['>']) = M.endTag ⟨.tag (inner ++ name), out, opened⟩ (inner ++ name) := by
  induction name generalizing inner with
  | nil => simp [run, step]
  | cons c name ih =>
    rw [List.forall_mem_cons] at letters
    have notEnd : c ≠ '>' := by
      rintro rfl
      exact absurd letters.1 (by decide)
    have notMark : c ≠ '<' := by
      rintro rfl
      exact absurd letters.1 (by decide)
    have whole : M.run ⟨.tag (inner ++ [c]), out, opened⟩ (name ++ ['>']) =
        M.endTag ⟨.tag (inner ++ [c] ++ name), out, opened⟩ (inner ++ [c] ++ name) := ih letters.2
    rw [List.append_assoc, List.singleton_append] at whole
    simp only [List.cons_append, run, step, notEnd, notMark, if_false, Option.bind_some]
    exact whole

theorem run_open {name out : List Char} {opened : List (List Char)}
    (letters : ∀ c ∈ name, c.isAlphanum = true) (known : M.known name = true) :
    M.run ⟨.text, out, opened⟩ ('<' :: (name ++ ['>'])) = some ⟨.text, out, name :: opened⟩ := by
  have slash : '/' ∉ name := fun there => absurd (letters '/' there) (by decide)
  have first : name.head? ≠ some '/' := fun same => slash (List.mem_of_head? same)
  have last : name.getLast? ≠ some '/' := fun same => slash (List.mem_of_getLast? same)
  have begun : M.step ⟨.text, out, opened⟩ '<' = some ⟨.tag [], out, opened⟩ := by simp [step]
  have whole : name.takeWhile Char.isAlphanum = name := by
    rw [← List.append_nil name, List.takeWhile_append_of_pos letters, List.takeWhile_nil]
  rw [run, begun, Option.bind_some, run_tag letters, List.nil_append]
  simp only [endTag, first, last, known, whole, if_false, Bool.true_eq_false]

theorem run_close {name out : List Char} {opened : List (List Char)} (letters : ∀ c ∈ name, c.isAlphanum = true) :
    M.run ⟨.text, out, opened⟩ ('<' :: '/' :: (name ++ ['>'])) =
      if opened.head? = some name then some ⟨.text, out, opened.tail⟩ else none := by
  have begun : M.step ⟨.text, out, opened⟩ '<' = some ⟨.tag [], out, opened⟩ := by simp [step]
  have slash : M.step ⟨.tag [], out, opened⟩ '/' = some ⟨.tag ['/'], out, opened⟩ := by simp [step]
  have begins : (['/'] ++ name).head? = some '/' := rfl
  have rest : (['/'] ++ name).tail = name := rfl
  rw [run, begun, Option.bind_some, run, slash, Option.bind_some, run_tag letters]
  simp only [endTag, begins, rest, if_true]

/-- In the middle of a tag or a reference no tag begins. -/
theorem step_mark_of_left {r : Reader} (left : r.place ≠ .text) : M.step r '<' = none := by
  obtain ⟨place, out, opened⟩ := r
  cases place with
  | text => exact absurd rfl left
  | tag inner => simp [step]
  | reference name =>
    simp [step]

theorem read_enclosed_iff {name : List Char} (letters : ∀ c ∈ name, c.isAlphanum = true)
    (known : M.known name = true) (text : List Char) : M.read (enclosed name text) = some text ↔ Plain text := by
  have whole : M.run ⟨.text, [], []⟩ (enclosed name text) = (M.run ⟨.text, [], [name]⟩ text).bind
      (fun r => M.run r ('<' :: '/' :: (name ++ ['>']))) := by
    rw [enclosed, run_append, run_append, run_open letters known, Option.bind_some]
  rw [read, whole]
  constructor
  · intro same
    obtain ⟨r, both, done⟩ := Option.bind_eq_some_iff.mp same
    obtain ⟨middle, ran, closed⟩ := Option.bind_eq_some_iff.mp both
    rw [finish_eq_some done] at closed
    by_cases left : middle.place = .text
    · obtain ⟨place, out, opened⟩ := middle
      cases left
      rw [run_close letters, Option.ite_none_right_eq_some, Option.some.injEq, Reader.mk.injEq] at closed
      rw [closed.2.2.1] at ran
      exact plain_of_length ran (by simp)
    · rw [run, step_mark_of_left left] at closed
      cases closed
  · intro plain
    rw [run_plain plain, Option.bind_some, run_close letters]
    simp [finish]

end Markup

end XpBuilder
