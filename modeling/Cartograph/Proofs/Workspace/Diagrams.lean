import Cartograph.Program
import Cartograph.Proofs.Diagram.Tables
import Cartograph.Proofs.Workspace.Reopening

/-!
# When a diagram can be drawn

After any history of a desk, the diagram of an endpoint of a project fails only if the project is
not stored or has no such endpoint, and with the failure that says so. The endpoints of data that
another run has replaced are such: they have none of the identifiers of the new ones. The program
first asks for the project of an endpoint and then for the diagram; the two agree on which endpoints
there are.
-/

namespace Cartograph

namespace ProjectData

lemma endpoint?_eq_none_iff {p : ProjectData} {id : Uuid} :
    p.endpoint? id = none ↔ ∀ x ∈ p.endpoints, x.id ≠ id := by
  simp [endpoint?]

lemma mem_of_endpoint?_eq_some {p : ProjectData} {id : Uuid} {x : Endpoint}
    (h : p.endpoint? id = some x) : x ∈ p.endpoints ∧ x.id = id :=
  ⟨List.mem_of_find?_eq_some h, by simpa using List.find?_some h⟩

end ProjectData

namespace Store

variable {s : Store} {id : Uuid}

lemma mem_of_findEndpoint {p : ProjectData} {x : Endpoint} (h : s.findEndpoint id = .ok (p, x)) :
    p ∈ s.projects ∧ x ∈ p.endpoints ∧ x.id = id := by
  unfold findEndpoint at h
  split at h
  · rename_i found hfound
    cases h
    obtain ⟨q, hq, hx⟩ := List.exists_of_findSome?_eq_some hfound
    obtain ⟨y, hy, heq⟩ := Option.map_eq_some_iff.mp hx
    cases heq
    exact ⟨hq, ProjectData.mem_of_endpoint?_eq_some hy⟩
  · cases h

lemma exists_findEndpoint {p : ProjectData} (hp : p ∈ s.projects) {x : Endpoint}
    (hx : x ∈ p.endpoints) : ∃ found, s.findEndpoint x.id = .ok found := by
  unfold findEndpoint
  split
  · exact ⟨_, rfl⟩
  · rename_i hnone
    have hp := List.findSome?_eq_none_iff.mp hnone p hp
    rw [Option.map_eq_none_iff, ProjectData.endpoint?_eq_none_iff] at hp
    exact absurd rfl (hp x hx)

end Store

namespace Workspace

variable {w : Workspace} {p q : ProjectData} {id : Uuid}

lemma diagram_eq_endpointNotFound (hw : w.store.Apart) (hq : q ∈ w.store.projects) {e : Uuid}
    (h : ∀ x ∈ q.endpoints, x.id ≠ e) : w.diagram e q.id = .error (.endpointNotFound e) := by
  rw [diagram, hw.project_eq hq]
  simp only [ProjectData.endpoint?_eq_none_iff.mpr h]

/-- The diagram of an endpoint that a project has. -/
lemma diagram_eq_ok (hw : w.store.Apart) (hq : q ∈ w.store.projects) (hconsistent : q.Consistent)
    {e : Uuid} (h : ∃ x ∈ q.endpoints, x.id = e) :
    ∃ x ∈ q.endpoints, x.id = e ∧
      w.diagram e q.id = .ok (Diagram.build q w.settings.diagram.maxDepth x) := by
  cases hfound : q.endpoint? e with
  | none =>
    obtain ⟨x, hx, hid⟩ := h
    exact absurd hid (ProjectData.endpoint?_eq_none_iff.mp hfound x hx)
  | some x =>
    obtain ⟨hx, hid⟩ := ProjectData.mem_of_endpoint?_eq_some hfound
    refine ⟨x, hx, hid, ?_⟩
    rw [diagram, hw.project_eq hq]
    simp only [hfound]
    exact Diagram.ofEndpoint_eq_ok (hconsistent.endpoint_class x hx)

/-- All that can come of asking for a diagram. -/
lemma diagram_cases (hw : w.store.Apart) (hconsistent : ∀ q ∈ w.store.projects, q.Consistent)
    (e id : Uuid) :
    ((∀ q ∈ w.store.projects, q.id ≠ id) ∧ w.diagram e id = .error (.projectNotFound id)) ∨
      ∃ q ∈ w.store.projects, q.id = id ∧
        ((∀ x ∈ q.endpoints, x.id ≠ e) ∧ w.diagram e id = .error (.endpointNotFound e) ∨
          ∃ x ∈ q.endpoints, x.id = e ∧
            w.diagram e id = .ok (Diagram.build q w.settings.diagram.maxDepth x)) := by
  by_cases hproject : ∀ q ∈ w.store.projects, q.id ≠ id
  · exact .inl ⟨hproject, by rw [diagram, Store.project_eq_error_iff.mpr hproject]⟩
  · push Not at hproject
    obtain ⟨q, hq, rfl⟩ := hproject
    refine .inr ⟨q, hq, rfl, ?_⟩
    by_cases hendpoint : ∀ x ∈ q.endpoints, x.id ≠ e
    · exact .inl ⟨hendpoint, diagram_eq_endpointNotFound hw hq hendpoint⟩
    · push Not at hendpoint
      exact .inr (diagram_eq_ok hw hq (hconsistent q hq) hendpoint)

lemma diagram_eq_projectNotFound_iff (hw : w.store.Apart)
    (hconsistent : ∀ q ∈ w.store.projects, q.Consistent) {e id : Uuid} :
    w.diagram e id = .error (.projectNotFound id) ↔ ∀ q ∈ w.store.projects, q.id ≠ id := by
  rcases diagram_cases hw hconsistent e id with
    ⟨hproject, h⟩ | ⟨q, hq, hid, ⟨-, h⟩ | ⟨x, -, -, h⟩⟩
  · exact iff_of_true h hproject
  · exact iff_of_false (by simp [h]) fun hproject => hproject q hq hid
  · exact iff_of_false (by simp [h]) fun hproject => hproject q hq hid

lemma diagram_eq_endpointNotFound_iff (hw : w.store.Apart) (hq : q ∈ w.store.projects)
    (hconsistent : q.Consistent) {e : Uuid} :
    w.diagram e q.id = .error (.endpointNotFound e) ↔ ∀ x ∈ q.endpoints, x.id ≠ e := by
  refine ⟨?_, diagram_eq_endpointNotFound hw hq⟩
  intro hfailure x hx hid
  obtain ⟨y, -, -, hdrawn⟩ := diagram_eq_ok hw hq hconsistent ⟨x, hx, hid⟩
  rw [hfailure] at hdrawn
  cases hdrawn

lemma diagram_ne_classNotFound (hw : w.store.Apart)
    (hconsistent : ∀ q ∈ w.store.projects, q.Consistent) (e id : Uuid) (name : String) :
    w.diagram e id ≠ .error (.classNotFound name) := by
  rcases diagram_cases hw hconsistent e id with
    ⟨-, h⟩ | ⟨q, -, -, ⟨-, h⟩ | ⟨x, -, -, h⟩⟩ <;> simp [h]

/-- The diagram of an endpoint that is found in the store can be drawn. -/
lemma exists_diagram_of_findEndpoint (hw : w.store.Apart)
    (hconsistent : ∀ q ∈ w.store.projects, q.Consistent) {e : Uuid} {x : Endpoint}
    (h : w.store.findEndpoint e = .ok (q, x)) : ∃ drawn, w.diagram e q.id = .ok drawn := by
  obtain ⟨hq, hx, hid⟩ := Store.mem_of_findEndpoint h
  obtain ⟨y, -, -, hdrawn⟩ := diagram_eq_ok hw hq (hconsistent q hq) ⟨x, hx, hid⟩
  exact ⟨_, hdrawn⟩

end Workspace

namespace Program

lemma settings_eq_ok {i : Invocation} {disk : Disk} {s : Settings}
    (h : Settings.load disk i.settings = .ok s) : settings i disk = .ok s := by
  rw [settings, h]
  rfl

lemma workspace_eq_ok {i : Invocation} {disk : Disk} {s : Settings} {path : String} {w : Workspace}
    {recovery : Java.Recovery} (hpath : i.store = some path)
    (h : Workspace.load s disk path recovery = .ok w) :
    workspace i s disk recovery = .ok w := by
  have hstore : storePath i s disk = path := by rw [storePath, hpath, Option.getD_some]
  rw [workspace, hstore, h]
  rfl

/-- A diagram for which no project is named: its project is looked for first. -/
lemma code_run_diagram {args : List String} {i : Invocation} {disk : Disk} {ids : Supply}
    {s : Settings} {w : Workspace} {e : Uuid} {json : Bool} {recovery : Java.Recovery}
    (hread : Request.read? args = some (.run i)) (hcommand : i.command = .diagram e none json none)
    (hsettings : settings i disk = .ok s) (hw : workspace i s disk recovery = .ok w) :
    (run args disk ids recovery).code = 0 ↔
      ∃ q x drawn, w.store.findEndpoint e = .ok (q, x) ∧ w.diagram e q.id = .ok drawn := by
  have hinvoke : invoke i disk ids recovery =
      diagram i s disk ids e none json none recovery := by
    simp only [invoke, hsettings, hcommand, bind, Except.bind]
  simp only [run, hread, hinvoke, diagram, hw, bind, Except.bind, causes, Except.map,
    Except.mapError]
  cases hfound : w.store.findEndpoint e with
  | error failure => simp
  | ok found =>
    obtain ⟨q, x⟩ := found
    cases hdrawn : w.diagram e q.id with
    | error failure => simp [hdrawn]
    | ok drawn => simp [hdrawn, pure, Except.pure]

end Program

namespace Desk

/-- After any history, a diagram fails only because its project is not stored or has no such
endpoint, and the failure says which. In particular this is so for the endpoints of data, held at
any time before, that have another batch. Where an endpoint is found in the store, its diagram can
be drawn, so the program draws the diagrams of the endpoints that are stored and of no others. -/
theorem diagram_after_history (settings : Settings) (draw : Nat → Uuid) (recovery : Java.Recovery)
    (d t : Desk) (hd : (start settings draw recovery).Reaches d) (ht : d.Reaches t)
    (hids : t.session.ids.Distinct) (e id : Uuid) :
    let w := t.session.workspace
    (w.diagram e id = .error (.projectNotFound id) ↔ ∀ q ∈ w.store.projects, q.id ≠ id) ∧
      (∀ q ∈ w.store.projects, q.id = id →
        (w.diagram e id = .error (.endpointNotFound e) ↔ ∀ x ∈ q.endpoints, x.id ≠ e) ∧
        ((∃ x ∈ q.endpoints, x.id = e) → ∃ x ∈ q.endpoints, x.id = e ∧
          w.diagram e id = .ok (Diagram.build q w.settings.diagram.maxDepth x))) ∧
      (∀ name, w.diagram e id ≠ .error (.classNotFound name)) ∧
      (∀ q₀ ∈ d.session.workspace.store.projects, ∀ x ∈ q₀.endpoints,
        ∀ q ∈ w.store.projects, q.batch ≠ q₀.batch →
          w.diagram x.id q.id = .error (.endpointNotFound x.id)) ∧
      (∀ q x, w.store.findEndpoint e = .ok (q, x) → ∃ drawn, w.diagram e q.id = .ok drawn) ∧
      ∀ args i json disk ids s, Request.read? args = some (.run i) →
        i.command = .diagram e none json none → Program.settings i disk = .ok s →
        Program.workspace i s disk recovery = .ok w →
        ((Program.run args disk ids recovery).code = 0 ↔
          ∃ q ∈ w.store.projects, ∃ x ∈ q.endpoints, x.id = e) := by
  intro w
  have hsound : d.Sound :=
    (sound_start settings draw recovery).reaches hd (hids.of_precedes ht.precedes)
  have hsound' : t.Sound := hsound.reaches ht hids
  have hw : w.store.Apart := (hsound'.workspaces w List.mem_cons_self).apart
  have hconsistent : ∀ q ∈ w.store.projects, q.Consistent :=
    fun q hq => hsound'.consistent q (holds_of_mem hq)
  refine ⟨Workspace.diagram_eq_projectNotFound_iff hw hconsistent, ?_,
    Workspace.diagram_ne_classNotFound hw hconsistent e id, ?_,
    fun q x => Workspace.exists_diagram_of_findEndpoint hw hconsistent, ?_⟩
  · rintro q hq rfl
    exact ⟨Workspace.diagram_eq_endpointNotFound_iff hw hq (hconsistent q hq),
      Workspace.diagram_eq_ok hw hq (hconsistent q hq)⟩
  · intro q₀ hq₀ x hx q hq hbatch
    apply Workspace.diagram_eq_endpointNotFound hw hq
    intro y hy heq
    exact hbatch (hsound.batch_of_reaches ht hids (holds_of_mem hq₀) (holds_of_mem hq) hx hy
      heq.symm).symm
  · intro args i json disk ids s hread hcommand hsettings hopen
    rw [Program.code_run_diagram hread hcommand hsettings hopen]
    constructor
    · rintro ⟨q, x, drawn, hfound, -⟩
      obtain ⟨hq, hx, hid⟩ := Store.mem_of_findEndpoint hfound
      exact ⟨q, hq, x, hx, hid⟩
    · rintro ⟨q, hq, x, hx, rfl⟩
      obtain ⟨⟨q', x'⟩, hfound⟩ := Store.exists_findEndpoint hq hx
      obtain ⟨drawn, hdrawn⟩ := Workspace.exists_diagram_of_findEndpoint hw hconsistent hfound
      exact ⟨q', x', drawn, hfound, hdrawn⟩

/-- The application of the shop has been analysed. -/
def shopFirst : Desk :=
  (start {} Uuid.ofNat).after (.perform (.analyze Session.shopDisk "/app" "**" false))

/-- What was found out has been saved, and the application has been analysed again. -/
def shopSecond : Desk := (shopFirst.after .save).after (.perform Session.shopExtraction)

/-- The two runs give the project the same identifier and its endpoint another one. -/
lemma shop_runs :
    shopFirst.session.workspace.store.projects.length < Codec.capacity 8 ∧
      shopSecond.session.ids.Distinct ∧
      (∃ q ∈ shopFirst.session.workspace.store.projects, q.id = .ofNat 1 ∧ q.batch = .ofNat 0 ∧
        ∃ x ∈ q.endpoints, x.id = .ofNat 2) ∧
      ∃ q ∈ shopSecond.session.workspace.store.projects, q.batch = .ofNat 3 ∧
        ∃ x ∈ q.endpoints, x.id = .ofNat 4 := by
  decide +kernel

/-- A disk with nothing but the store file. -/
def shopStore : Disk where
  tree := .directory [("store", .file (.ok shopFirst.session.workspace.snapshot))]

lemma read_shopStore : shopStore.read "/store" = .ok shopFirst.session.workspace.snapshot := by
  have hparts : shopStore.parts "/store" = .ok ["store"] := by decide +kernel
  rw [Disk.read, hparts]
  rfl

lemma load_shopStore : Workspace.load {} shopStore "/store" =
    .ok { store := shopFirst.session.workspace.store } :=
  Workspace.load_snapshot (by decide +kernel) read_shopStore shop_runs.1 {} .nothing

lemma load_settings_shopStore : Settings.load shopStore "atlas.toml" = .ok {} := by
  have hnone : shopStore.readText "atlas.toml" = .error .notFound := by decide +kernel
  rw [Settings.load, hnone]

lemma reaches_shopSecond : (start {} Uuid.ofNat).Reaches shopSecond :=
  .after (.after (.after .refl (.perform _) trivial) .save trivial) (.perform _) trivial

lemma allows_shopStore : shopSecond.Allows (.reopen {} shopStore "/store") := by
  intro content hcontent
  rw [read_shopStore] at hcontent
  cases hcontent
  exact ⟨_, List.mem_cons_self, rfl⟩

/-- When the snapshot is opened again, the endpoint of the first run is back, and that of the second
run is not known. -/
theorem diagram_after_history_shop :
    let t := shopSecond.after (.reopen {} shopStore "/store")
    let w := t.session.workspace
    (start {} Uuid.ofNat).Reaches shopSecond ∧ shopSecond.Reaches t ∧ t.session.ids.Distinct ∧
      (∃ drawn, w.diagram (.ofNat 2) (.ofNat 1) = .ok drawn) ∧
      w.diagram (.ofNat 4) (.ofNat 1) = .error (.endpointNotFound (.ofNat 4)) ∧
      ∀ ids, (Program.run ["-s", "/store", "diagram", (Uuid.ofNat 2).render] shopStore ids).code =
        0 := by
  intro t w
  have ht : t = { shopSecond with
      session := ⟨{ store := shopFirst.session.workspace.store }, shopSecond.session.ids⟩ } := by
    have hrecovery : shopSecond.session.workspace.recovery = .nothing :=
      reaches_shopSecond.recovery_eq
    simp only [t, after, hrecovery, load_shopStore]
  have hreaches : shopSecond.Reaches t := .after .refl _ allows_shopStore
  obtain ⟨-, hdistinct, hold, q₀, hq₀, hbatch₀, x₀, hx₀, hid₀⟩ := shop_runs
  have hids : t.session.ids.Distinct := by
    rw [ht]
    exact hdistinct
  have hw : t.session.workspace = { store := shopFirst.session.workspace.store } := by
    rw [ht]
  have hold : ∃ q ∈ t.session.workspace.store.projects, q.id = .ofNat 1 ∧ q.batch = .ofNat 0 ∧
      ∃ x ∈ q.endpoints, x.id = .ofNat 2 := by
    rw [hw]
    exact hold
  obtain ⟨q, hq, hid, hbatch, hx⟩ := hold
  obtain ⟨-, hdraws, -, hreplaced, -, hprogram⟩ := diagram_after_history {} Uuid.ofNat .nothing
    shopSecond t reaches_shopSecond hreaches hids (.ofNat 2) (.ofNat 1)
  refine ⟨reaches_shopSecond, hreaches, hids, ?_, ?_, fun ids => ?_⟩
  · obtain ⟨y, -, -, hdrawn⟩ := (hdraws q hq hid).2 hx
    exact ⟨_, hdrawn⟩
  · have hfailure := hreplaced q₀ hq₀ x₀ hx₀ q hq (by rw [hbatch, hbatch₀]; decide)
    rwa [hid₀, hid] at hfailure
  · refine (hprogram _ ⟨"atlas.toml", some "/store", false, .diagram (.ofNat 2) none false none⟩
      false shopStore ids {} (by decide +kernel) rfl ?_ ?_).mpr ⟨q, hq, hx⟩
    · exact Program.settings_eq_ok load_settings_shopStore
    · rw [hw]
      exact Program.workspace_eq_ok rfl load_shopStore

end Desk

end Cartograph
