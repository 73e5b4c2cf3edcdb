import Cartograph.Proofs.FileTree.Canonical
import Cartograph.Proofs.Store.Apart
import Cartograph.Workspace

/-!
# Histories of a workspace

A session is a workspace with the supply of identifiers that it draws from. Whatever is asked of it,
in whatever order and on whatever disks, its projects keep apart: no two of them have the same
identifier or the same root. Nothing checks this when data are stored, since a store only compares
identifiers. It holds because a run looks for its root before it begins, keeps the identifier of the
project that it finds there, and else draws a new one.

The only assumption is that the identifiers drawn so far are distinct. That the canonical form of a
root is its own canonical form is a property of disks.
-/

namespace Cartograph

/-! ### Supplies -/

namespace Supply

/-- The identifiers that have been drawn are distinct. -/
def Distinct (s : Supply) : Prop :=
  ∀ i < s.drawn, ∀ j < s.drawn, s.draw i = s.draw j → i = j

instance (s : Supply) : Decidable s.Distinct :=
  inferInstanceAs (Decidable (∀ i < s.drawn, ∀ j < s.drawn, s.draw i = s.draw j → i = j))

/-- The second supply is left of the first after some more draws. -/
structure Precedes (s t : Supply) : Prop where
  draw_eq : t.draw = s.draw
  drawn_le : s.drawn ≤ t.drawn

lemma Precedes.refl (s : Supply) : s.Precedes s := ⟨rfl, Nat.le_refl _⟩

lemma Precedes.trans {s t u : Supply} (h : s.Precedes t) (k : t.Precedes u) : s.Precedes u :=
  ⟨k.draw_eq.trans h.draw_eq, Nat.le_trans h.drawn_le k.drawn_le⟩

lemma precedes_next (s : Supply) : s.Precedes s.next.2 := ⟨rfl, Nat.le_succ _⟩

lemma Distinct.of_precedes {s t : Supply} (h : t.Distinct) (k : s.Precedes t) : s.Distinct := by
  intro i hi j hj heq
  refine h i (Nat.lt_of_lt_of_le hi k.drawn_le) j (Nat.lt_of_lt_of_le hj k.drawn_le) ?_
  rw [k.draw_eq]
  exact heq

end Supply

lemma precedes_endpointsOf (ids : Supply) (ms : List Mapping) :
    ids.Precedes (endpointsOf ids ms).2 := by
  induction ms generalizing ids with
  | nil => exact .refl ids
  | cons m ms ih => exact ids.precedes_next.trans (ih ids.next.2)

/-! ### Runs -/

namespace AnalysisRequest

variable {q : AnalysisRequest} {root : String}

lemma identity_of_previous {p : ProjectData} (h : q.previous = some p)
    (hsame : Path.same p.root root = true) (ids : Supply) : q.identity root ids = (p.id, ids) := by
  simp only [identity, h, hsame, if_true]

lemma identity_of_none (h : q.previous = none) (ids : Supply) :
    q.identity root ids = ids.next := by
  simp only [identity, h]

lemma precedes_identity (q : AnalysisRequest) (root : String) (ids : Supply) :
    ids.Precedes (q.identity root ids).2 := by
  unfold identity
  split
  · split_ifs
    · exact .refl ids
    · exact ids.precedes_next
  · exact ids.precedes_next

end AnalysisRequest

/-- A run that has source files to read and is not called off succeeds. -/
lemma Settings.analyze_eq {s : Settings} {d : Disk} {q : AnalysisRequest} {root : String}
    {files : List String} (hroot : d.projectRoot q.root = .ok root)
    (hfiles : d.sources s.scan root (.ofText q.pattern) = .ok files) (hne : files ≠ [])
    (hrun : q.cancelled = false) (ids : Supply) :
    let units := (readSources d q.recovery s.analysis.tolerateSyntaxErrors files).1
    let skipped := (readSources d q.recovery s.analysis.tolerateSyntaxErrors files).2
    let identity := q.identity root ids.next.2
    let found := ProjectData.ofUnits identity.1 root ids.next.1 q.lexicon identity.2 units
    s.analyze d ids q = .ok (found.1, .of found.1 files.length skipped, found.2) := by
  have hsome : files.isEmpty = false := by simpa using hne
  intro units skipped identity found
  simp only [Settings.analyze, hroot, hfiles, hsome, hrun, bind, Except.bind, pure, Except.pure,
    if_false, Bool.false_eq_true]
  rfl

/-- What a run that succeeds gives: the data of the source files below the canonical root, under the
identity that the request asks for, which the report names. The batch is drawn first. -/
lemma Settings.ofUnits_of_analyze {s : Settings} {d : Disk} {ids ids' : Supply}
    {q : AnalysisRequest} {data : ProjectData} {report : Report}
    (h : s.analyze d ids q = .ok (data, report, ids')) :
    d.projectRoot q.root = .ok data.root ∧ data.id = (q.identity data.root ids.next.2).1 ∧
      report.project = data.id ∧
      ∃ files, d.sources s.scan data.root (.ofText q.pattern) = .ok files ∧
        ProjectData.ofUnits data.id data.root ids.next.1 q.lexicon
          (q.identity data.root ids.next.2).2
          (readSources d q.recovery s.analysis.tolerateSyntaxErrors files).1 = (data, ids') := by
  unfold Settings.analyze at h
  cases hroot : d.projectRoot q.root with
  | error failure => simp [hroot, bind, Except.bind] at h
  | ok root =>
    cases hfiles : d.sources s.scan root (.ofText q.pattern) with
    | error failure => simp [hroot, hfiles, bind, Except.bind] at h
    | ok files =>
      simp only [hroot, hfiles, bind, Except.bind] at h
      split_ifs at h
      cases h
      exact ⟨rfl, rfl, rfl, files, hfiles, rfl⟩

/-- The supply that a run leaves goes on from the identity of the project. -/
lemma Settings.analyze_inv {s : Settings} {d : Disk} {ids ids' : Supply} {q : AnalysisRequest}
    {data : ProjectData} {report : Report} (h : s.analyze d ids q = .ok (data, report, ids')) :
    d.projectRoot q.root = .ok data.root ∧ data.id = (q.identity data.root ids.next.2).1 ∧
      report.project = data.id ∧ (q.identity data.root ids.next.2).2.Precedes ids' := by
  obtain ⟨hroot, hid, hproject, files, -, hunits⟩ := Settings.ofUnits_of_analyze h
  refine ⟨hroot, hid, hproject, ?_⟩
  change (q.identity data.root ids.next.2).2.Precedes (data, ids').2
  rw [← hunits]
  exact precedes_endpointsOf _ _

namespace Workspace

variable {w w' : Workspace} {d : Disk} {ids ids' : Supply} {root pattern : String}
  {cancelled : Bool} {report : Report}

/-- What an analysis of a root asks for: the root, and the identity of the project stored there. -/
def request (w : Workspace) (root pattern : String) (cancelled : Bool) : AnalysisRequest :=
  { root, pattern, cancelled, recovery := w.recovery, previous := w.store.projectAt? root }

lemma analyze_of_run {canonical : String} (hroot : d.projectRoot root = .ok canonical)
    {data : ProjectData}
    (hrun : w.settings.analyze d ids (w.request canonical pattern cancelled) =
      .ok (data, report, ids')) :
    w.analyze d ids root pattern cancelled =
      .ok ({ w with store := w.store.replace data }, report, ids') := by
  rw [request] at hrun
  simp only [analyze, hroot, hrun, bind, Except.bind]
  rfl

/-- What an analysis that succeeds does to a workspace. -/
lemma analyze_inv (h : w.analyze d ids root pattern cancelled = .ok (w', report, ids')) :
    ∃ data, d.projectRoot root = .ok data.root ∧
      w.settings.analyze d ids (w.request data.root pattern cancelled) =
        .ok (data, report, ids') ∧
      w' = { w with store := w.store.replace data } := by
  unfold analyze at h
  cases hroot : d.projectRoot root with
  | error failure => simp [hroot, bind, Except.bind] at h
  | ok canonical =>
    simp only [hroot, bind, Except.bind] at h
    split at h
    · cases h
    · rename_i found hrun
      obtain ⟨data, report, ids'⟩ := found
      cases h
      -- the run makes the root canonical once more, which changes nothing
      obtain ⟨hself, -⟩ := Settings.analyze_inv hrun
      rw [Disk.projectRoot_idempotent hroot, Except.ok.injEq] at hself
      exact ⟨data, by rw [hself], by rw [← hself]; exact hrun, rfl⟩

/-- The endpoints of a project can be listed once it has been analysed. -/
lemma endpoints_of_analyze
    (h : w.analyze d ids root pattern cancelled = .ok (w', report, ids')) :
    ∃ es, w'.endpoints report.project = .ok es := by
  obtain ⟨data, -, hrun, rfl⟩ := analyze_inv h
  obtain ⟨-, -, hproject, -⟩ := Settings.analyze_inv hrun
  rw [endpoints, hproject, Store.project_replace]
  exact ⟨_, rfl⟩

end Workspace

/-! ### Sessions -/

/-- Something that is asked of a workspace, of the disk as it is at that time. -/
inductive Operation
  | analyze (disk : Disk) (root pattern : String) (cancelled : Bool)
  | extract (disk : Disk) (root pattern : String)

namespace Operation

def disk : Operation → Disk
  | analyze disk _ _ _ | extract disk _ _ => disk

def root : Operation → String
  | analyze _ root _ _ | extract _ root _ => root

/-- The run that is asked for in a workspace, at the canonical root. -/
def request (w : Workspace) (canonical : String) : Operation → AnalysisRequest
  | analyze _ _ pattern cancelled => w.request canonical pattern cancelled
  | extract _ _ pattern => w.request canonical pattern false

lemma previous_request (op : Operation) (w : Workspace) (canonical : String) :
    (op.request w canonical).previous = w.store.projectAt? canonical := by
  cases op <;> rfl

end Operation

/-- What is answered. -/
inductive Answer
  | report (report : Report)
  | endpoints (endpoints : List EndpointSummary)

/-- A workspace, and the supply that its identifiers come from. -/
structure Session where
  workspace : Workspace
  ids : Supply

namespace Session

/-- The session in which nothing is stored and no identifier has been drawn. -/
def start (settings : Settings) (draw : Nat → Uuid) (recovery : Java.Recovery := .nothing) :
    Session :=
  ⟨{ settings, recovery }, { draw }⟩

/-- Analyses a root; if the run fails the session stays as it is. -/
def analyze (s : Session) (d : Disk) (root pattern : String) (cancelled : Bool) :
    Except Failure Report × Session :=
  match s.workspace.analyze d s.ids root pattern cancelled with
  | .ok (w, report, ids) => (.ok report, ⟨w, ids⟩)
  | .error failure => (.error failure, s)

/-- Carries out an operation. An extraction lists the endpoints after the analysis has taken effect,
whether they can be listed or not. -/
def perform (s : Session) : Operation → Except Failure Answer × Session
  | .analyze d root pattern cancelled =>
    let (answer, t) := s.analyze d root pattern cancelled
    (answer.map .report, t)
  | .extract d root pattern =>
    let (answer, t) := s.analyze d root pattern false
    (answer.bind fun report => (t.workspace.endpoints report.project).map .endpoints, t)

/-- Carries out operations one after the other. -/
def run (s : Session) (history : List Operation) : Session :=
  history.foldl (fun s op => (s.perform op).2) s

lemma analyze_cases (s : Session) (d : Disk) (root pattern : String) (cancelled : Bool) :
    (∃ failure, s.analyze d root pattern cancelled = (.error failure, s)) ∨
      ∃ w report ids, s.workspace.analyze d s.ids root pattern cancelled = .ok (w, report, ids) ∧
        s.analyze d root pattern cancelled = (.ok report, ⟨w, ids⟩) := by
  unfold analyze
  split
  · rename_i w report ids h
    exact .inr ⟨w, report, ids, h, rfl⟩
  · rename_i failure h
    exact .inl ⟨failure, rfl⟩

/-- The run that the operation asks for, at its canonical root, gives the data and leaves the
supply. -/
def Finds (s : Session) (op : Operation) (data : ProjectData) (ids : Supply) : Prop :=
  op.disk.projectRoot op.root = .ok data.root ∧
    ∃ report, s.workspace.settings.analyze op.disk s.ids (op.request s.workspace data.root) =
      .ok (data, report, ids)

/-- All that an operation can do: it fails and changes nothing, or its run gives data that replace
what was stored under their identifier. -/
lemma perform_cases (s : Session) (op : Operation) :
    (∃ failure, s.perform op = (.error failure, s)) ∨
      ∃ answer data ids, s.Finds op data ids ∧
        s.perform op = (.ok answer,
          ⟨{ s.workspace with store := s.workspace.store.replace data }, ids⟩) := by
  cases op with
  | analyze d root pattern cancelled =>
    rcases s.analyze_cases d root pattern cancelled with ⟨failure, h⟩ | ⟨w, report, ids, hw, h⟩
    · exact .inl ⟨failure, by rw [perform, h]; rfl⟩
    · obtain ⟨data, hroot, hrun, rfl⟩ := Workspace.analyze_inv hw
      exact .inr ⟨.report report, data, ids, ⟨hroot, report, hrun⟩, by rw [perform, h]; rfl⟩
  | extract d root pattern =>
    rcases s.analyze_cases d root pattern false with ⟨failure, h⟩ | ⟨w, report, ids, hw, h⟩
    · exact .inl ⟨failure, by rw [perform, h]; rfl⟩
    · obtain ⟨es, hes⟩ := Workspace.endpoints_of_analyze hw
      obtain ⟨data, hroot, hrun, rfl⟩ := Workspace.analyze_inv hw
      refine .inr ⟨.endpoints es, data, ids, ⟨hroot, report, hrun⟩, ?_⟩
      rw [perform, h]
      simp only [Except.bind, hes, Except.map]

/-! ### What every history keeps up -/

/-- The projects are apart, their identifiers have been drawn and their roots are canonical. -/
structure Sound (s : Session) : Prop where
  apart : s.workspace.store.Apart
  drawn : ∀ k ∈ s.workspace.store.keys, ∃ i < s.ids.drawn, s.ids.draw i = k.1
  canonical : ∀ k ∈ s.workspace.store.keys, Path.IsCanonical k.2

lemma sound_start (settings : Settings) (draw : Nat → Uuid) (recovery : Java.Recovery) :
    (start settings draw recovery).Sound where
  apart := .nil
  drawn k hk := by cases hk
  canonical k hk := by cases hk

section Finds

variable {s : Session} {op : Operation} {data : ProjectData} {ids : Supply}

lemma Finds.isCanonical (h : s.Finds op data ids) : Path.IsCanonical data.root :=
  Disk.isCanonical_of_projectRoot h.1

lemma Finds.precedes (h : s.Finds op data ids) : s.ids.Precedes ids := by
  obtain ⟨-, report, hrun⟩ := h
  obtain ⟨-, -, -, hids⟩ := Settings.analyze_inv hrun
  exact s.ids.precedes_next.trans ((AnalysisRequest.precedes_identity _ _ _).trans hids)

/-- The data of a root that is stored have the identity of the project there. -/
lemma Finds.id_of_same (h : s.Finds op data ids) (hapart : s.workspace.store.Apart)
    {p : ProjectData} (hp : p ∈ s.workspace.store.projects)
    (hsame : Path.same p.root data.root = true) : data.id = p.id := by
  obtain ⟨-, report, hrun⟩ := h
  have hprevious : (op.request s.workspace data.root).previous = some p := by
    rw [op.previous_request, hapart.projectAt?_eq hp hsame]
  obtain ⟨-, hid, -⟩ := Settings.analyze_inv hrun
  rw [hid, AnalysisRequest.identity_of_previous hprevious hsame]

/-- The data of a new root have an identifier that had not been drawn before. -/
lemma Finds.id_of_new (h : s.Finds op data ids)
    (hnew : ∀ p ∈ s.workspace.store.projects, Path.same p.root data.root = false) :
    ∃ i, s.ids.drawn ≤ i ∧ i < ids.drawn ∧ ids.draw i = data.id := by
  obtain ⟨-, report, hrun⟩ := h
  have hprevious : (op.request s.workspace data.root).previous = none := by
    rw [op.previous_request]
    exact List.find?_eq_none.mpr fun p hp => by simp [hnew p hp]
  obtain ⟨-, hid, -, hprecedes⟩ := Settings.analyze_inv hrun
  rw [AnalysisRequest.identity_of_none hprevious] at hid hprecedes
  -- the identifier of the batch is drawn first, that of the project second
  refine ⟨s.ids.drawn + 1, Nat.le_succ _, hprecedes.drawn_le, ?_⟩
  rw [hid, hprecedes.draw_eq]
  rfl

end Finds

/-- An identifier that is drawn later is none of those that are stored. -/
lemma Sound.ne_of_drawn_le {s : Session} (hs : s.Sound) {ids : Supply} (hids : ids.Distinct)
    (hprecedes : s.ids.Precedes ids) {i : Nat} (hi : s.ids.drawn ≤ i) (hlt : i < ids.drawn) :
    ∀ k ∈ s.workspace.store.keys, k.1 ≠ ids.draw i := by
  intro k hk heq
  obtain ⟨j, hj, hjk⟩ := hs.drawn k hk
  have hji : j = i := by
    apply hids j (Nat.lt_of_lt_of_le hj hprecedes.drawn_le) i hlt
    rw [← heq, ← hjk, hprecedes.draw_eq]
  omega

/-- The store takes in what a run gives. -/
lemma Sound.receives {s : Session} (hs : s.Sound) {op : Operation} {data : ProjectData}
    {ids : Supply} (h : s.Finds op data ids) (hids : ids.Distinct) :
    s.workspace.store.Receives data (s.workspace.store.replace data) where
  in_place i p hi hsame := by
    have hp : p ∈ s.workspace.store.projects := List.mem_of_getElem? hi
    have hid := h.id_of_same hs.apart hp hsame
    have hroot : p.root = data.root :=
      (hs.canonical _ (List.mem_map_of_mem hp)).eq_of_same h.isCanonical hsame
    refine ⟨hid, hroot.symm, Store.replaceIn_of_known ?_ hi hid.symm⟩
    exact hs.apart.imp And.left
  at_end hnew := by
    obtain ⟨i, hi, hlt, hid⟩ := h.id_of_new hnew
    refine Store.replaceIn_of_new fun p hp => ?_
    rw [← hid]
    exact hs.ne_of_drawn_le hids h.precedes hi hlt _ (List.mem_map_of_mem hp)

/-- An operation keeps a session sound. -/
lemma Sound.perform {s : Session} (hs : s.Sound) (op : Operation)
    (hids : (s.perform op).2.ids.Distinct) : (s.perform op).2.Sound := by
  rcases s.perform_cases op with ⟨failure, h⟩ | ⟨answer, data, ids, hfinds, h⟩
  · rw [h]
    exact hs
  rw [h] at hids ⊢
  have hold : ∀ k ∈ s.workspace.store.keys, ∃ i < ids.drawn, ids.draw i = k.1 := by
    intro k hk
    obtain ⟨i, hi, hik⟩ := hs.drawn k hk
    exact ⟨i, Nat.lt_of_lt_of_le hi hfinds.precedes.drawn_le, hfinds.precedes.draw_eq ▸ hik⟩
  rcases (hs.receives hfinds hids).keys with hkeys | ⟨hnew, hkeys⟩
  · exact ⟨Store.apart_iff.mpr (hkeys ▸ Store.apart_iff.mp hs.apart), hkeys ▸ hold,
      hkeys ▸ hs.canonical⟩
  · obtain ⟨i, hi, hlt, hid⟩ := hfinds.id_of_new hnew
    have hne := hs.ne_of_drawn_le hids hfinds.precedes hi hlt
    refine ⟨Store.apart_iff.mpr ?_, ?_, ?_⟩
    · rw [hkeys, List.pairwise_append]
      refine ⟨Store.apart_iff.mp hs.apart, List.pairwise_singleton _ _, ?_⟩
      intro k hk k' hk'
      rw [List.mem_singleton] at hk'
      subst hk'
      obtain ⟨p, hp, rfl⟩ := List.mem_map.mp hk
      exact ⟨hid ▸ hne _ hk, hnew p hp⟩
    · rw [hkeys, List.forall_mem_append, List.forall_mem_singleton]
      exact ⟨hold, i, hlt, hid⟩
    · rw [hkeys, List.forall_mem_append, List.forall_mem_singleton]
      exact ⟨hs.canonical, hfinds.isCanonical⟩

lemma precedes_perform (s : Session) (op : Operation) : s.ids.Precedes (s.perform op).2.ids := by
  rcases s.perform_cases op with ⟨failure, h⟩ | ⟨answer, data, ids, hfinds, h⟩
  · rw [h]
    exact .refl s.ids
  · rw [h]
    exact hfinds.precedes

lemma precedes_run (s : Session) (history : List Operation) :
    s.ids.Precedes (s.run history).ids := by
  induction history generalizing s with
  | nil => exact .refl s.ids
  | cons op history ih => exact (s.precedes_perform op).trans (ih (s.perform op).2)

/-- A history keeps a session sound. -/
lemma Sound.run {s : Session} (hs : s.Sound) (history : List Operation)
    (hids : (s.run history).ids.Distinct) : (s.run history).Sound := by
  induction history generalizing s with
  | nil => exact hs
  | cons op history ih =>
    have hstep : (s.perform op).2.ids.Distinct :=
      Supply.Distinct.of_precedes hids ((s.perform op).2.precedes_run history)
    exact ih (hs.perform op hstep) hids

/-- After any history that starts with nothing stored, the projects are apart, and they still are
after one more operation. If that operation fails, it changes nothing. If it succeeds, the data of
its run are in the place of the project with that root, whose identity they keep, or at the end if
there is no such project; the other projects are as they were. -/
theorem perform_run_apart (settings : Settings) (draw : Nat → Uuid) (recovery : Java.Recovery)
    (history : List Operation) (op : Operation)
    (hids : (((start settings draw recovery).run history).perform op).2.ids.Distinct) :
    let s := (start settings draw recovery).run history
    let t := (s.perform op).2
    s.workspace.store.Apart ∧ t.workspace.store.Apart ∧
      (∀ failure, (s.perform op).1 = .error failure → t = s) ∧
      ∀ answer, (s.perform op).1 = .ok answer →
        ∃ data, s.Finds op data t.ids ∧ s.workspace.store.Receives data t.workspace.store := by
  intro s t
  have hs : s.Sound :=
    (sound_start settings draw recovery).run history (hids.of_precedes (s.precedes_perform op))
  refine ⟨hs.apart, (hs.perform op hids).apart, ?_⟩
  rcases s.perform_cases op with ⟨failure, h⟩ | ⟨answer, data, ids, hfinds, h⟩
  · refine ⟨fun _ _ => congrArg Prod.snd h, fun answer hanswer => ?_⟩
    rw [h] at hanswer
    cases hanswer
  · have ht : t = ⟨{ s.workspace with store := s.workspace.store.replace data }, ids⟩ :=
      congrArg Prod.snd h
    refine ⟨fun failure hfailure => ?_, fun _ _ => ⟨data, ?_, ?_⟩⟩
    · rw [h] at hfailure
      cases hfailure
    · rw [ht]
      exact hfinds
    · have hdistinct : t.ids.Distinct := hids
      rw [ht] at hdistinct ⊢
      exact hs.receives hfinds hdistinct

/-- A disk with an application that answers a request, and a library beside it. -/
def shopDisk : Disk where
  tree := .directory
    [("app", .directory [("Shop.java", .file (.ok
        "@RestController class Shop \x7b @GetMapping void buy() \x7b\x7d \x7d".toUTF8))]),
      ("lib", .directory [("Clock.java", .file (.ok "class Clock \x7b\x7d".toUTF8))])]

/-- The application is analysed, then a root that is not there, then the library. -/
def shopHistory : List Operation :=
  [.analyze shopDisk "/app" "**" false, .analyze shopDisk "/none" "**" false,
    .analyze shopDisk "/lib" "" false]

/-- The endpoints of the application are extracted, by another path to its root. -/
def shopExtraction : Operation := .extract shopDisk "/lib/../app" "**"

/-- The application keeps its place and its identity. -/
theorem perform_run_apart_shop :
    let s := (start {} Uuid.ofNat).run shopHistory
    let t := (s.perform shopExtraction).2
    t.ids.Distinct ∧ s.workspace.store.keys = [(.ofNat 1, "/app"), (.ofNat 4, "/lib")] ∧
      t.workspace.store.Apart ∧
      ∃ data, s.Finds shopExtraction data t.ids ∧
        s.workspace.store.Receives data t.workspace.store := by
  have hrun : (((start {} Uuid.ofNat).run shopHistory).perform shopExtraction).2.ids.Distinct ∧
      ((start {} Uuid.ofNat).run shopHistory).workspace.store.keys =
        [(.ofNat 1, "/app"), (.ofNat 4, "/lib")] ∧
      (((start {} Uuid.ofNat).run shopHistory).perform shopExtraction).1.isOk = true := by
    decide +kernel
  obtain ⟨hids, hkeys, hok⟩ := hrun
  obtain ⟨-, hapart, -, hreceives⟩ :=
    perform_run_apart {} Uuid.ofNat .nothing shopHistory shopExtraction hids
  refine ⟨hids, hkeys, hapart, ?_⟩
  cases hanswer : (((start {} Uuid.ofNat).run shopHistory).perform shopExtraction).1 with
  | error failure =>
    rw [hanswer] at hok
    cases hok
  | ok answer => exact hreceives answer hanswer

end Session

end Cartograph
