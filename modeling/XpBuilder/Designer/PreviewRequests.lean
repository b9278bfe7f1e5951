import XpBuilder.Library.Requests
import XpBuilder.Designer.Page

/-! The preview of a report on the designer page, and that of a chart in its dialogue. Each request
writes its answer into the same state when it comes back, whichever was issued last. A result leaves
the error as it is, and an error the fields. -/

namespace XpBuilder.Designer
open PythonText (orElse)

/-! ## The code -/

/-- A value of a result in JSON. -/
inductive JsonValue where
  | null
  | flag (b : Bool)
  | number (q : ℚ)
  | text (s : String)
  | nested (json : String)
  deriving DecidableEq

structure PreviewResult where
  sql : String
  columns : List String
  rows : List (Dict String JsonValue)
  count : Nat
  truncated : Bool

/-- How the promise of `previewReport` is settled. -/
inductive Reply where
  | result (next : PreviewResult)
  | error (message : Option String)

def Reply.failed : Reply → Bool
  | result _ => false
  | error _ => true

/-- What a preview shows. -/
structure Shown (ε : Type) where
  result : Option PreviewResult
  error : Option String
  fields : ε
  loading : Bool

/-- Where a preview is shown: what is computed there from a result, and the text for an error
without a message. -/
structure Place (ε : Type) where
  fields : Definition → PreviewResult → ε
  fallback : String
  unset : ε

section Code
variable {ε : Type} (place : Place ε)

/-- The state after the first render. -/
def Shown.initial : Shown ε := ⟨none, none, place.unset, false⟩

/-- What is done when a request is issued. -/
def Shown.start (s : Shown ε) : Shown ε := { s with loading := true, error := none }

/-- `then`, `catch` and `finally` of a request for the definition. -/
def Shown.finish (s : Shown ε) (definition : Definition) : Reply → Shown ε
  | .result next => { s with result := some next, fields := place.fields definition next, loading := false }
  | .error message => { s with error := some (orElse message place.fallback), result := none, loading := false }

end Code

/-- `handlePreview` of the page -/
def handlePreview : Place Unit := ⟨fun _ _ => (), "Preview failed", ()⟩

/-- `labelField` and `valueField` -/
structure ChartFields where
  labelField : Option String
  valueField : Option String
  deriving DecidableEq

/-- `/^-?[\d.,]+$/` -/
def numericText (s : String) : Bool :=
  let cs := trim s.toList
  let rest := if cs.head? = some '-' then cs.tail else cs
  !rest.isEmpty && rest.all (fun c => c.isDigit || c == '.' || c == ',')

def JsonValue.numeric : JsonValue → Bool
  | number _ => true
  | text s => numericText s
  | _ => false

/-- The names of the chart's fields that a result suggests. -/
def chartFields (definition : Definition) (next : PreviewResult) : ChartFields :=
  let labels := definition.columns.map (fun item => orElse item.label item.column)
  let metrics := definition.metrics.map (fun item =>
    orElse item.label (printed item.aggregate ++ "(" ++ item.column ++ ")"))
  let numericCols := next.columns.filter (fun col =>
    next.rows.any (fun row => (row.get col).any JsonValue.numeric))
  { labelField := labels.head?.or next.columns.head?
    valueField := metrics.head?.or (numericCols.getLast?.or next.columns.getLast?) }

/-- The effect of `ChartPreviewModal` -/
def chartPreviewModal : Place ChartFields := ⟨chartFields, "Could not preview the chart", ⟨none, none⟩⟩

/-! ## Requests and their answers -/

abbrev PreviewEvent := Requests.Event Definition Reply

/-- A preview with the history of its requests, each for the definition of when it was issued. -/
structure PreviewSession (ε : Type) where
  history : Requests.History Definition Reply
  shown : Shown ε

namespace PreviewSession
variable {ε : Type} (place : Place ε)

def initial : PreviewSession ε := ⟨.empty, Shown.initial place⟩

def step (s : PreviewSession ε) (e : PreviewEvent) : PreviewSession ε where
  history := s.history.step e
  shown := match e with
    | .issue _ => s.shown.start
    | .arrive n reply =>
      match s.history.requests[n]? with
      | none => s.shown
      | some definition => if s.history.Pending n then s.shown.finish place definition reply else s.shown

/-! ## What it is for -/

/-- What an answer should show: a result with its fields, or a message. -/
inductive Answer (ε : Type) where
  | result (next : PreviewResult) (fields : ε)
  | error (message : String)

def answer (definition : Definition) : Reply → Answer ε
  | .result next => .result next (place.fields definition next)
  | .error message => .error (orElse message place.fallback)

/-- An error has no fields. -/
def Shows (s : Shown ε) : Answer ε → Prop
  | .result next fields => s.result = some next ∧ s.error = none ∧ s.fields = fields
  | .error message => s.result = none ∧ s.error = some message

/-- The answer to a request that was issued. -/
def answerOf (s : PreviewSession ε) (a : Nat × Reply) : Option (Answer ε) :=
  s.history.requests[a.1]?.map (fun definition => answer place definition a.2)

/-- When the latest request is answered, in particular when all are, its answer is shown. -/
def ShowsLatest (s : PreviewSession ε) : Prop :=
  ∀ own, s.history.Latest own → ∃ due, s.answerOf place own = some due ∧ Shows s.shown due

/-- The answer that arrived last shows the same as that of the latest request. If it is a result, no
error arrived since that request was issued. -/
def LastAgrees (s : PreviewSession ε) : Prop :=
  ∀ own, s.history.Latest own → ∃ last, s.history.since.getLast? = some last ∧
    s.answerOf place last = s.answerOf place own ∧
    (last.2.failed = false → ∀ a ∈ s.history.since, a.2.failed = false)

/-! ## What the state tells -/

/-- The message of an error. -/
def messageOf : Reply → Option String
  | .result _ => none
  | .error message => some (orElse message place.fallback)

/-- The error is the last one since the latest request was issued, and the rest is of the answer
that arrived last. -/
structure Told (s : PreviewSession ε) : Prop where
  sound : s.history.Sound
  error : s.shown.error = (s.history.since.filterMap (fun a => messageOf place a.2)).getLast?
  last : ∀ a, s.history.since.getLast? = some a → ∃ definition, s.history.requests[a.1]? = some definition ∧
    match a.2 with
    | .result next => s.shown.result = some next ∧ s.shown.fields = place.fields definition next
    | .error _ => s.shown.result = none

variable {place}

theorem told_initial : Told place (initial place) where
  sound := Requests.History.sound_empty
  error := rfl
  last _ none := nomatch none

theorem Told.issue {s : PreviewSession ε} (told : Told place s) (definition : Definition) :
    Told place (s.step place (.issue definition)) where
  sound := told.sound.step (.issue definition)
  error := rfl
  last _ none := nomatch none

theorem Told.arrive {s : PreviewSession ε} (told : Told place s) (n : Nat) (reply : Reply) :
    Told place (s.step place (.arrive n reply)) := by
  by_cases pending : s.history.Pending n
  · obtain ⟨definition, asked⟩ : ∃ definition, s.history.requests[n]? = some definition :=
      ⟨_, List.getElem?_eq_getElem pending.1⟩
    have after : s.step place (.arrive n reply) =
        ⟨{ s.history with since := s.history.since ++ [(n, reply)] },
          s.shown.finish place definition reply⟩ := by
      simp only [step, Requests.History.step, asked, if_pos pending]
    have sound := told.sound.step (.arrive n reply)
    rw [Requests.History.step, if_pos pending] at sound
    rw [after]
    refine ⟨sound, ?_, fun a final => ?_⟩
    · cases reply with
      | result next => simpa [Shown.finish, messageOf] using told.error
      | error message => simp [Shown.finish, messageOf]
    · rw [List.getLast?_concat, Option.some.injEq] at final
      subst final
      refine ⟨_, asked, ?_⟩
      cases reply with
      | result next => exact ⟨rfl, rfl⟩
      | error message => rfl
  · have after : s.step place (.arrive n reply) = s := by
      simp only [step, Requests.History.step, if_neg pending]
      cases s.history.requests[n]? <;> rfl
    rw [after]
    exact told

theorem Told.run {s : PreviewSession ε} (told : Told place s) (events : List PreviewEvent) :
    Told place (Runs.after (step place) s events) := by
  induction events generalizing s with
  | nil => exact told
  | cons e rest ih =>
    cases e with
    | issue definition => exact ih (told.issue definition)
    | arrive n reply => exact ih (told.arrive n reply)

/-- No error since the latest request was issued. -/
theorem Told.error_none_iff {s : PreviewSession ε} (told : Told place s) :
    s.shown.error = none ↔ ∀ a ∈ s.history.since, a.2.failed = false := by
  rw [told.error, List.getLast?_eq_none_iff, List.filterMap_eq_nil_iff]
  refine forall₂_congr (fun a _ => ?_)
  cases a.2 <;> simp [messageOf, Reply.failed]

/-- What is shown while an answer is the last to have arrived. -/
theorem Told.shows_iff {s : PreviewSession ε} (told : Told place s) {last : Nat × Reply}
    (final : s.history.since.getLast? = some last) (due : Answer ε) :
    Shows s.shown due ↔ s.answerOf place last = some due ∧
      (last.2.failed = false → ∀ a ∈ s.history.since, a.2.failed = false) := by
  obtain ⟨definition, asked, state⟩ := told.last last final
  have given : s.answerOf place last = some (answer place definition last.2) := by
    rw [answerOf, asked, Option.map_some]
  rw [given, Option.some.injEq, ← told.error_none_iff]
  obtain ⟨n, reply⟩ := last
  cases reply with
  | result next =>
    cases due with
    | result other fields =>
      simp only [Shows, answer, Reply.failed, state.1, state.2, Answer.result.injEq, Option.some.injEq, forall_const]
      tauto
    | error message => simp [Shows, answer, state.1]
  | error message =>
    have error : s.shown.error = some (orElse message place.fallback) := by
      obtain ⟨front, all⟩ := List.getLast?_eq_some_iff.mp final
      rw [told.error, all, List.filterMap_append]
      exact List.getLast?_concat
    have result : s.shown.result = none := state
    cases due with
    | result other fields => simp [Shows, answer, result]
    | error other => simp [Shows, answer, Reply.failed, result, error]

theorem Told.showsLatest_iff {s : PreviewSession ε} (told : Told place s) : ShowsLatest place s ↔ LastAgrees place s := by
  refine forall₂_congr (fun own latest => ?_)
  have nonempty := List.ne_nil_of_mem (told.sound.latest_since latest)
  have final := List.getLast?_eq_some_getLast nonempty
  constructor
  · rintro ⟨due, asked, shown⟩
    obtain ⟨same, clear⟩ := (told.shows_iff final due).mp shown
    exact ⟨_, final, same.trans asked.symm, clear⟩
  · rintro ⟨last, there, same, clear⟩
    obtain ⟨definition, issued, -⟩ := told.last last there
    have given : s.answerOf place last = some (answer place definition last.2) := by
      rw [answerOf, issued, Option.map_some]
    exact ⟨_, same.symm.trans given, (told.shows_iff there _).mpr ⟨given, clear⟩⟩

/-! ## Every order -/

/-- After any requests and answers the latest request is shown exactly where the last answer agrees. -/
theorem run_showsLatest_iff (place : Place ε) (events : List PreviewEvent) :
    ShowsLatest place (Runs.after (step place) (initial place) events) ↔
      LastAgrees place (Runs.after (step place) (initial place) events) :=
  (told_initial.run events).showsLatest_iff

/-- The same report previewed with two results. -/
def counted (count : Nat) : PreviewResult := ⟨"", ["k"], [], count, false⟩

/-- The dialogue is closed and opened again before the first request is answered. -/
def olderLast : List PreviewEvent :=
  [.issue emptyDefinition, .issue emptyDefinition, .arrive 1 (.result (counted 2)), .arrive 0 (.result (counted 1))]

/-- The first request fails after the second has succeeded. -/
def olderFails : List PreviewEvent :=
  [.issue emptyDefinition, .issue emptyDefinition, .arrive 1 (.result (counted 2)), .arrive 0 (.error none)]

theorem older_shown :
    ¬ShowsLatest chartPreviewModal (Runs.after (step chartPreviewModal) (initial chartPreviewModal) olderLast) ∧
    ¬ShowsLatest handlePreview (Runs.after (step handlePreview) (initial handlePreview) olderFails) := by
  constructor
  · intro shows
    obtain ⟨due, asked, shown⟩ := shows (1, .result (counted 2)) ⟨List.mem_cons_self, rfl⟩
    cases asked
    have count := congrArg (Option.map PreviewResult.count) shown.1
    revert count
    decide
  · intro shows
    obtain ⟨due, asked, shown⟩ := shows (1, .result (counted 2)) ⟨List.mem_cons_self, rfl⟩
    cases asked
    exact absurd shown.1 nofun

/-! ## Behind a button -/

/-- A button that shows that it is loading starts no request. -/
def Clickable (s : PreviewSession ε) (e : PreviewEvent) : Prop :=
  ∀ definition, e = .issue definition → s.shown.loading = false

/-- All requests but the latest were answered before it was issued, and it is too unless the
preview is loading. -/
structure OneAtATime (s : PreviewSession ε) : Prop where
  sound : s.history.Sound
  older : ∀ n, n + 1 < s.history.requests.length → n ∈ s.history.earlier.map Prod.fst
  idle : s.shown.loading = false → ∀ n, n < s.history.requests.length → n ∈ s.history.arrived.map Prod.fst

theorem OneAtATime.step {s : PreviewSession ε} (one : OneAtATime s) {e : PreviewEvent} (clickable : Clickable s e) :
    OneAtATime (s.step place e) := by
  cases e with
  | issue definition =>
    have idle := clickable definition rfl
    refine ⟨one.sound.step (.issue definition), fun n below => one.idle idle n ?_, nofun⟩
    have longer : (s.step place (.issue definition)).history.requests.length = s.history.requests.length + 1 :=
      List.length_append
    omega
  | arrive n reply =>
    by_cases pending : s.history.Pending n
    · have history : (s.step place (.arrive n reply)).history = _ := Requests.History.step_pending pending reply
      have sound := one.sound.step (.arrive n reply)
      refine ⟨sound, ?_, fun _ m below => ?_⟩
      · rw [history]
        exact one.older
      · rw [history] at below ⊢
        rw [Requests.History.arrived, ← List.append_assoc, List.map_append, List.mem_append]
        by_cases earlier : m + 1 < s.history.requests.length
        · exact .inl (List.map_append ▸ List.mem_append_left _ (one.older m earlier))
        · have latest : n = m := by
            by_contra other
            have bound := pending.1
            have before : n + 1 < s.history.requests.length := by
              change m < s.history.requests.length at below
              omega
            exact pending.2 (List.map_append ▸ List.mem_append_left _ (one.older n before))
          rw [latest]
          exact .inr List.mem_cons_self
    · have history : (s.step place (.arrive n reply)).history = _ := Requests.History.step_not_pending pending reply
      have shown : (s.step place (.arrive n reply)).shown = s.shown := by
        simp only [PreviewSession.step, if_neg pending]
        cases s.history.requests[n]? <;> rfl
      refine ⟨one.sound.step (.arrive n reply), ?_, ?_⟩
      · rw [history]
        exact one.older
      · rw [history, shown]
        exact one.idle

theorem oneAtATime_initial : OneAtATime (initial place) := ⟨Requests.History.sound_empty, nofun, nofun⟩

theorem OneAtATime.showsLatest {s : PreviewSession ε} (one : OneAtATime s) (told : Told place s) :
    ShowsLatest place s := by
  refine told.showsLatest_iff.mpr (fun own latest => ?_)
  have only := fun a mem => one.sound.eq_latest one.older latest (a := a) mem
  have nonempty := List.ne_nil_of_mem (one.sound.latest_since latest)
  have same := only _ (List.getLast_mem nonempty)
  refine ⟨own, same ▸ List.getLast?_eq_some_getLast nonempty, rfl, fun succeeded a mem => ?_⟩
  rw [only a mem]
  exact succeeded

/-- Behind a button every order of answers shows the latest request. -/
theorem clicked_showsLatest (place : Place ε) (events : List PreviewEvent)
    (clicked : Runs.Each (step place) Clickable (initial place) events) :
    ShowsLatest place (Runs.after (step place) (initial place) events) := by
  have one := (clicked.of_invariant (I := OneAtATime) (Q := fun _ _ => True)
    (fun s e one clickable => ⟨trivial, one.step clickable⟩) oneAtATime_initial).2
  exact one.showsLatest (told_initial.run events)

end PreviewSession
end XpBuilder.Designer
