import XpBuilder.Library.LostUpdates
import XpBuilder.Publish.Attachments

/-! Publishes of several reports onto one dashboard at the same time. Each reads the layout of the
dashboard when it attaches its chart and writes the whole layout with its commit, while the
relation of the charts gets one row. -/

namespace XpBuilder.Publish
open Layout (Placed chartKey)
open LostUpdates

/-! ## The dashboard between reads and commits -/

/-- A dashboard, the publishes that have committed, and the layout that each of the others has read, with those that
had committed then. -/
structure Board (ι : Type) where
  dashboard : Dashboard
  committed : List ι
  read : ι → Option (PositionJson × List ι)

/-- `_attach_chart_to_dashboard` with the layout that was read, on the dashboard as it is at the commit. -/
def attachStale (p : Placed) (position : PositionJson) (d : Dashboard) : Dashboard :=
  attachChart p.ids p.chartId p.sliceName { d with positionJson := position }

section
variable {ι : Type} [DecidableEq ι] (chart : ι → Placed)

def Board.step (b : Board ι) : Event ι → Board ι
  | .read i =>
    if i ∈ b.committed ∨ (b.read i).isSome then b
    else { b with read := Function.update b.read i (some (b.dashboard.positionJson, b.committed)) }
  | .write i =>
    match b.read i with
    | none => b
    | some (position, _) =>
      ⟨attachStale (chart i) position b.dashboard, b.committed ++ [i], Function.update b.read i none⟩

def Board.start (d : Dashboard) : Board ι := ⟨d, [], fun _ => none⟩

/-- No other publish commits between the read of a publish and its commit. -/
def Board.Undisturbed (b : Board ι) : Event ι → Prop
  | .read _ => True
  | .write i => ∀ position committed, b.read i = some (position, committed) → committed = b.committed

/-- The layout has a node for the chart. -/
def ShowsChart (d : Dashboard) (chartId : Nat) : Prop := ∃ l, d.positionJson = .layout l ∧ (l.get (chartKey chartId)).isSome

/-! ## The chain of layouts -/

/-- Each publish has a chart and components of its own, which the dashboard does not have. -/
structure Own (base : Layout) (d : Dashboard) : Prop where
  distinct : ∀ i, (chart i).keys.Nodup
  new : ∀ i, ∀ k ∈ (chart i).keys, base.get k = none
  apart : ∀ i j, i ≠ j → List.Disjoint (chart i).keys (chart j).keys
  slices : ∀ i, (chart i).chartId ∉ d.slices

/-- The board that a chain of publishes stands for. -/
def Board.ofChain (base : Layout) (d : Dashboard) (c : Chain ι) : Board ι where
  dashboard :=
    { d with
      slices := d.slices ++ c.written.map (fun i => (chart i).chartId)
      positionJson := .layout (base.withCharts (c.value.map chart)) }
  committed := c.written
  read i := (c.held i).map (fun x => (.layout (base.withCharts (x.1.map chart)), x.2))

variable {chart} {base : Layout} {d : Dashboard}

omit [DecidableEq ι] in
theorem Own.keys (own : Own chart base d) {l : List ι} (distinct : l.Nodup) :
    (base.entries.map Prod.fst ++ (l.map chart).flatMap Placed.keys).Nodup := by
  rw [List.flatMap_map, List.nodup_append]
  refine ⟨base.distinct, ?_, ?_⟩
  · rw [List.nodup_flatMap]
    refine ⟨fun i _ => own.distinct i, ?_⟩
    exact distinct.imp (fun ne => own.apart _ _ ne)
  · intro k mem k' mem' same
    obtain ⟨i, -, within⟩ := List.mem_flatMap.mp mem'
    exact (Dict.get_eq_none_iff base k').mp (own.new i k' within) (same ▸ mem)

theorem Own.chart_injective (own : Own chart base d) {i j : ι} (same : (chart i).chartId = (chart j).chartId) : i = j := by
  by_contra ne
  have here : chartKey (chart i).chartId ∈ (chart i).keys := Placed.mem_keys.mpr (.inr (.inr rfl))
  have there : chartKey (chart i).chartId ∈ (chart j).keys := Placed.mem_keys.mpr (.inr (.inr (congrArg chartKey same)))
  exact own.apart i j ne here there

theorem attachStale_layout (p : Placed) (l : Layout) (d : Dashboard) :
    attachStale p (.layout l) d =
      { d with
        slices := if p.chartId ∈ d.slices then d.slices else d.slices ++ [p.chartId]
        positionJson := .layout (if (l.get (chartKey p.chartId)).isSome then l else l.addChart p.ids p.chartId p.sliceName) } := rfl

/-- A commit goes on with the chain of what was read. -/
theorem attachStale_chain (stored : base.Stored) (own : Own chart base d) {i : ι} {l written : List ι} (distinct : written.Nodup)
    (part : l.Sublist written) (new : i ∉ written) {shown : PositionJson} :
    attachStale (chart i) (.layout (base.withCharts (l.map chart)))
        { d with slices := d.slices ++ written.map (fun i => (chart i).chartId), positionJson := shown } =
      { d with
        slices := d.slices ++ (written ++ [i]).map (fun i => (chart i).chartId)
        positionJson := .layout (base.withCharts ((l ++ [i]).map chart)) } := by
  obtain ⟨-, -, -, bears⟩ := Layout.withCharts_bears stored (own.keys (distinct.sublist part))
  have unrelated : (chart i).chartId ∉ d.slices ++ written.map (fun i => (chart i).chartId) := by
    rw [List.mem_append, not_or]
    refine ⟨own.slices i, fun mem => ?_⟩
    obtain ⟨j, there, same⟩ := List.mem_map.mp mem
    exact new (own.chart_injective same ▸ there)
  have absent : ¬((base.withCharts (l.map chart)).get (chartKey (chart i).chartId)).isSome := by
    intro present
    have unknown := own.new i (chartKey (chart i).chartId) (Placed.mem_keys.mpr (.inr (.inr rfl)))
    obtain ⟨p, mem, same⟩ := List.mem_map.mp (mem_charts_of_key bears unknown present)
    obtain ⟨j, there, rfl⟩ := List.mem_map.mp mem
    exact new (own.chart_injective same ▸ part.subset there)
  rw [attachStale_layout, if_neg unrelated, if_neg absent, List.map_append, List.append_assoc, List.map_append,
    List.map_singleton, List.map_singleton, Layout.withCharts_snoc]

omit [DecidableEq ι] in
theorem ofChain_start (position : d.positionJson = .layout base) :
    Board.ofChain chart base d (Shared.start [] : Chain ι) = Board.start d := by
  unfold Board.ofChain Board.start Shared.start
  simp only [List.map_nil, List.append_nil, Option.map_none]
  rw [Layout.withCharts, List.foldl_nil, ← position]

theorem ofChain_step (stored : base.Stored) (own : Own chart base d) {c : Chain ι} (sound : Chain.Sound c) (e : Event ι) :
    (Board.ofChain chart base d c).step chart e = Board.ofChain chart base d (Chain.step c e) := by
  cases e with
  | read i =>
    have same : (i ∈ (Board.ofChain chart base d c).committed ∨ ((Board.ofChain chart base d c).read i).isSome) ↔
        (i ∈ c.written ∨ (c.held i).isSome) := by
      unfold Board.ofChain
      rw [Option.isSome_map]
    unfold Board.step Chain.step Shared.step
    dsimp only
    by_cases known : i ∈ c.written ∨ (c.held i).isSome
    · rw [if_pos (same.mpr known), if_pos known]
    · rw [if_neg (mt same.mp known), if_neg known]
      unfold Board.ofChain
      congr 1
      funext j
      dsimp only
      by_cases same : j = i
      · subst same
        rw [Function.update_self, Function.update_self]
        rfl
      · rw [Function.update_of_ne same, Function.update_of_ne same]
  | write i =>
    cases held : c.held i with
    | none =>
      rw [Chain.step_write_none held]
      unfold Board.step
      dsimp only [Board.ofChain]
      rw [held]
      rfl
    | some x =>
      obtain ⟨l, written⟩ := x
      obtain ⟨part, before⟩ := sound.heldPart i l written held
      have new : i ∉ c.written := sound.open_ i (by rw [held]; rfl)
      rw [Chain.step_write_held held]
      unfold Board.step
      dsimp only [Board.ofChain]
      rw [held]
      dsimp only [Option.map_some]
      rw [attachStale_chain stored own sound.distinct (part.trans before.sublist) new]
      congr 1
      funext j
      by_cases same : j = i
      · subst same
        rw [Function.update_self, Function.update_self]
        rfl
      · rw [Function.update_of_ne same, Function.update_of_ne same]

omit [DecidableEq ι] in
theorem undisturbed_ofChain (c : Chain ι) (e : Event ι) :
    (Board.ofChain chart base d c).Undisturbed e ↔ c.Undisturbed e := by
  cases e with
  | read i => exact Iff.rfl
  | write i =>
    constructor
    · intro undisturbed l written held
      exact undisturbed (.layout (base.withCharts (l.map chart))) written (by dsimp only [Board.ofChain]; rw [held]; rfl)
    · intro undisturbed position written held
      obtain ⟨x, there, same⟩ := Option.map_eq_some_iff.mp held
      exact undisturbed x.1 written (by rw [there, ← (Prod.mk.inj same).2])

theorem ofChain_after (stored : base.Stored) (own : Own chart base d) {c : Chain ι} (sound : Chain.Sound c) (run : List (Event ι)) :
    Runs.after (Board.step chart) (Board.ofChain chart base d c) run = Board.ofChain chart base d (Runs.after Chain.step c run) ∧
      (Runs.Each (Board.step chart) Board.Undisturbed (Board.ofChain chart base d c) run ↔
        Runs.Each Chain.step Shared.Undisturbed c run) := by
  induction run generalizing c with
  | nil => exact ⟨rfl, Iff.rfl⟩
  | cons e rest ih =>
    obtain ⟨reached, each⟩ := ih (sound.step e)
    rw [Runs.after_cons, Runs.after_cons, Runs.Each, Runs.Each, ofChain_step stored own sound, undisturbed_ofChain, each]
    exact ⟨reached, Iff.rfl⟩

/-- The charts in the layout are those of the chain. -/
theorem showsChart_ofChain (stored : base.Stored) (own : Own chart base d) {c : Chain ι} (sound : Chain.Sound c) (i : ι) :
    ShowsChart (Board.ofChain chart base d c).dashboard (chart i).chartId ↔ i ∈ c.value := by
  obtain ⟨-, -, -, bears⟩ := Layout.withCharts_bears stored (own.keys (sound.distinct.sublist sound.part))
  have unknown := own.new i (chartKey (chart i).chartId) (Placed.mem_keys.mpr (.inr (.inr rfl)))
  constructor
  · rintro ⟨l, ⟨⟩, there⟩
    obtain ⟨p, mem, same⟩ := List.mem_map.mp (mem_charts_of_key bears unknown there)
    obtain ⟨j, inside, rfl⟩ := List.mem_map.mp mem
    exact own.chart_injective same ▸ inside
  · intro mem
    exact ⟨_, rfl, isSome_of_mem_charts bears (List.mem_map.mpr ⟨chart i, List.mem_map_of_mem mem, rfl⟩)⟩

/-- Whichever publishes read and commit in whichever order, each committed chart is related to the dashboard once and
the chart of the last commit is in the layout; all of them are in it exactly where no publish committed between the
read of another and its commit. -/
theorem attached_shown_iff (stored : base.Stored) (own : Own chart base d) (position : d.positionJson = .layout base)
    (run : List (Event ι)) :
    (Runs.after (Board.step chart) (Board.start d) run).dashboard.slices =
        d.slices ++ (Runs.after (Board.step chart) (Board.start d) run).committed.map (fun i => (chart i).chartId) ∧
      (Runs.after (Board.step chart) (Board.start d) run).committed.Nodup ∧
      (∀ i, (Runs.after (Board.step chart) (Board.start d) run).committed.getLast? = some i →
        ShowsChart (Runs.after (Board.step chart) (Board.start d) run).dashboard (chart i).chartId) ∧
      ((∀ i ∈ (Runs.after (Board.step chart) (Board.start d) run).committed,
          ShowsChart (Runs.after (Board.step chart) (Board.start d) run).dashboard (chart i).chartId) ↔
        Runs.Each (Board.step chart) Board.Undisturbed (Board.start d : Board ι) run) := by
  have start : Chain.Sound (Shared.start [] : Chain ι) := Chain.sound_start
  have sound := Chain.sound_after start run
  obtain ⟨reached, each⟩ := ofChain_after stored own Chain.sound_start run
  rw [ofChain_start position] at reached each
  rw [reached, each]
  have shows := fun i => showsChart_ofChain stored own sound i
  refine ⟨rfl, sound.distinct, fun i last => ?_, ?_⟩
  · rw [shows]
    exact List.mem_of_getLast? ((Chain.last_after run).trans last)
  · rw [← Chain.kept_iff run]
    exact forall₂_congr (fun i _ => shows i)

end

/-- Two publishes that read the dashboard before either commits. -/
theorem attached_shown_iff_plain :
    ¬∀ i ∈ (Runs.after (Board.step (fun i : Bool => if i then ⟨⟨"0a1b2c3d", "4e5f6a7b"⟩, 7, "Sales"⟩
          else ⟨⟨"11223344", "55667788"⟩, 8, "Visits"⟩)) (Board.start plainDashboard)
        [.read true, .read false, .write true, .write false]).committed,
      ShowsChart (Runs.after (Board.step (fun i : Bool => if i then ⟨⟨"0a1b2c3d", "4e5f6a7b"⟩, 7, "Sales"⟩
          else ⟨⟨"11223344", "55667788"⟩, 8, "Visits"⟩)) (Board.start plainDashboard)
        [.read true, .read false, .write true, .write false]).dashboard
        (if i then (⟨⟨"0a1b2c3d", "4e5f6a7b"⟩, 7, "Sales"⟩ : Placed) else ⟨⟨"11223344", "55667788"⟩, 8, "Visits"⟩).chartId := by
  have own : Own (fun i : Bool => if i then (⟨⟨"0a1b2c3d", "4e5f6a7b"⟩, 7, "Sales"⟩ : Placed)
      else ⟨⟨"11223344", "55667788"⟩, 8, "Visits"⟩) Layout.flat plainDashboard := by
    refine ⟨?_, ?_, ?_, ?_⟩
    · decide +kernel
    · decide +kernel
    · intro i j ne
      rw [List.disjoint_left]
      revert i j
      decide +kernel
    · decide +kernel
  rw [(attached_shown_iff Layout.stored_flat own rfl _).2.2.2]
  rintro ⟨-, -, -, second, -⟩
  exact absurd (second _ _ rfl) (by decide)

end XpBuilder.Publish
