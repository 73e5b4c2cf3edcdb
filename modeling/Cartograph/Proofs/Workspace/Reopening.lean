import Cartograph.Proofs.Analysis.References
import Cartograph.Proofs.Snapshot.RoundTrip
import Cartograph.Proofs.Workspace.History
import Mathlib.Logic.Relation

/-!
# Saving and reopening

A desk is a session with the workspaces that were saved on the way. Its history is made of
operations of the session, of saves, and of reopenings, in which the session goes on with a
workspace that is read from a snapshot. A snapshot can be an old one, and it can be opened under
other settings; all that is asked of it is that it was written by a save.

Whatever the history, all that is held at a desk, in the session or in a snapshot, is data that a
run has given. So its places exist, and its endpoints have identifiers of their own: data that share
the identifier of an endpoint come from the same run, and have the same batch.
-/

namespace Cartograph

/-! ### The data of a run -/

/-- The endpoints have identifiers that were drawn, none of them before the given place. -/
def ProjectData.DrawnFrom (p : ProjectData) (first : Nat) (ids : Supply) : Prop :=
  ∀ x ∈ p.endpoints, ∃ i, first ≤ i ∧ i < ids.drawn ∧ ids.draw i = x.id

section DrawnFrom

variable {p q : ProjectData} {first first' : Nat} {ids ids' : Supply}

lemma ProjectData.DrawnFrom.mono (h : p.DrawnFrom first ids) (hfirst : first' ≤ first)
    (hids : ids.Precedes ids') : p.DrawnFrom first' ids' := by
  intro x hx
  obtain ⟨i, hi, hlt, hid⟩ := h x hx
  exact ⟨i, Nat.le_trans hfirst hi, Nat.lt_of_lt_of_le hlt hids.drawn_le, hids.draw_eq ▸ hid⟩

/-- What is drawn later has other identifiers. -/
lemma ProjectData.DrawnFrom.ne (hp : p.DrawnFrom first ids) (hq : q.DrawnFrom ids.drawn ids')
    (hids : ids.Precedes ids') (hdistinct : ids'.Distinct) {x y : Endpoint}
    (hx : x ∈ p.endpoints) (hy : y ∈ q.endpoints) : x.id ≠ y.id := by
  obtain ⟨i, -, hi, hix⟩ := hp x hx
  obtain ⟨j, hj, hlt, hjy⟩ := hq y hy
  intro heq
  have hij : i = j := by
    apply hdistinct i (Nat.lt_of_lt_of_le hi hids.drawn_le) j hlt
    rw [hjy, ← heq, ← hix, hids.draw_eq]
  omega

end DrawnFrom

lemma drawn_endpointsOf (ids : Supply) (ms : List Mapping) {x : Endpoint}
    (hx : x ∈ (endpointsOf ids ms).1) :
    ∃ i, ids.drawn ≤ i ∧ i < (endpointsOf ids ms).2.drawn ∧
      (endpointsOf ids ms).2.draw i = x.id := by
  induction ms generalizing ids with
  | nil => cases hx
  | cons m ms ih =>
    rcases List.mem_cons.mp hx with rfl | hx
    · have hprecedes := precedes_endpointsOf ids.next.2 ms
      exact ⟨ids.drawn, Nat.le_refl _, hprecedes.drawn_le, congrFun hprecedes.draw_eq ids.drawn⟩
    · obtain ⟨i, hi, hlt, hid⟩ := ih ids.next.2 hx
      exact ⟨i, Nat.le_of_succ_le hi, hlt, hid⟩

namespace Session

section Finds

variable {s : Session} {op : Operation} {data : ProjectData} {ids : Supply}

lemma Finds.consistent (h : s.Finds op data ids) : data.Consistent := by
  obtain ⟨-, report, hrun⟩ := h
  obtain ⟨-, -, -, files, -, hunits⟩ := Settings.ofUnits_of_analyze hrun
  change (data, ids).1.Consistent
  rw [← hunits]
  exact ProjectData.consistent_ofUnits _ _ _ _ _ _

lemma Finds.drawnFrom (h : s.Finds op data ids) : data.DrawnFrom s.ids.drawn ids := by
  obtain ⟨-, report, hrun⟩ := h
  obtain ⟨-, -, -, files, -, hunits⟩ := Settings.ofUnits_of_analyze hrun
  obtain ⟨hdata, hids⟩ := Prod.mk.inj hunits
  have hprecedes := s.ids.precedes_next.trans (AnalysisRequest.precedes_identity
    (op.request s.workspace data.root) data.root s.ids.next.2)
  intro x hx
  rw [← hdata] at hx
  obtain ⟨i, hi, hlt, hid⟩ := drawn_endpointsOf _ _ hx
  rw [← hids]
  exact ⟨i, Nat.le_trans hprecedes.drawn_le hi, hlt, hid⟩

end Finds

lemma Sound.mono {w : Workspace} {ids ids' : Supply} (hs : Sound ⟨w, ids⟩)
    (hids : ids.Precedes ids') : Sound ⟨w, ids'⟩ where
  apart := hs.apart
  drawn k hk := by
    obtain ⟨i, hi, hik⟩ := hs.drawn k hk
    exact ⟨i, Nat.lt_of_lt_of_le hi hids.drawn_le, hids.draw_eq ▸ hik⟩
  canonical := hs.canonical

/-- A part of what is stored is as sound as the whole. -/
lemma Sound.of_sublist {w w' : Workspace} {ids : Supply} (hs : Sound ⟨w, ids⟩)
    (h : w'.store.projects.Sublist w.store.projects) : Sound ⟨w', ids⟩ where
  apart := hs.apart.sublist h
  drawn k hk := hs.drawn k ((h.map _).subset hk)
  canonical k hk := hs.canonical k ((h.map _).subset hk)

end Session

/-! ### Desks -/

/-- A session, and the workspaces that have been saved. -/
structure Desk where
  session : Session
  saved : List Workspace := []

namespace Desk

/-- The desk of a session in which nothing has happened. -/
def start (settings : Settings) (draw : Nat → Uuid) (recovery : Java.Recovery := .nothing) : Desk :=
  { session := .start settings draw recovery }

/-- Something that happens at a desk. -/
inductive Event
  | perform (op : Operation)
  | save
  | reopen (settings : Settings) (disk : Disk) (path : String)

/-- A file that is opened as a snapshot, if it can be read, was written by a save. -/
def Allows (d : Desk) : Event → Prop
  | .perform _ | .save => True
  | .reopen _ disk path =>
    ∀ content, disk.read path = .ok content → ∃ w ∈ d.saved, content = w.snapshot

/-- The desk after an event; a snapshot that cannot be opened changes nothing. -/
def after (d : Desk) : Event → Desk
  | .perform op => { d with session := (d.session.perform op).2 }
  | .save => { d with saved := d.session.workspace :: d.saved }
  | .reopen settings disk path =>
    match Workspace.load settings disk path d.session.workspace.recovery with
    | .ok w => { d with session := ⟨w, d.session.ids⟩ }
    | .error _ => d

/-- The second desk is the first after an event. -/
def Step (d t : Desk) : Prop := ∃ event, d.Allows event ∧ d.after event = t

/-- The second desk is the first after some events. -/
def Reaches : Desk → Desk → Prop := Relation.ReflTransGen Step

/-- The workspaces at a desk, at work or saved. -/
def workspaces (d : Desk) : List Workspace := d.session.workspace :: d.saved

/-- The data are stored in a workspace at the desk. -/
def Holds (d : Desk) (p : ProjectData) : Prop := ∃ w ∈ d.workspaces, p ∈ w.store.projects

lemma holds_of_mem {d : Desk} {p : ProjectData}
    (h : p ∈ d.session.workspace.store.projects) : d.Holds p :=
  ⟨_, List.mem_cons_self, h⟩

/-- What is opened is a first part of what is held. -/
lemma projects_of_reopen {d : Desk} {settings : Settings} {disk : Disk} {path : String}
    {recovery : Java.Recovery} {w : Workspace} (hallows : d.Allows (.reopen settings disk path))
    (h : Workspace.load settings disk path recovery = .ok w) :
    ∃ w' ∈ d.workspaces, w.store.projects.Sublist w'.store.projects := by
  rcases (Workspace.load_inv h).2 with hempty | ⟨content, hread, hdecode⟩
  · exact ⟨_, List.mem_cons_self, hempty ▸ List.nil_sublist _⟩
  · obtain ⟨w', hw', rfl⟩ := hallows content hread
    exact ⟨w', List.mem_cons_of_mem _ hw', (Workspace.projects_of_decode_snapshot hdecode).sublist⟩

/-! ### What every event keeps up -/

/-- The workspaces at a desk are sound, their data are consistent, and data that share the
identifier of an endpoint have the same batch. -/
structure Sound (d : Desk) : Prop where
  workspaces : ∀ w ∈ d.workspaces, Session.Sound ⟨w, d.session.ids⟩
  consistent : ∀ p, d.Holds p → p.Consistent
  drawn : ∀ p, d.Holds p → p.DrawnFrom 0 d.session.ids
  batch : ∀ p q, d.Holds p → d.Holds q → ∀ x ∈ p.endpoints, ∀ y ∈ q.endpoints,
    x.id = y.id → p.batch = q.batch

lemma sound_start (settings : Settings) (draw : Nat → Uuid) (recovery : Java.Recovery) :
    (start settings draw recovery).Sound := by
  have hnone : ∀ p, ¬(start settings draw recovery).Holds p := by
    rintro p ⟨w, hw, hp⟩
    rw [List.mem_singleton.mp hw] at hp
    cases hp
  refine ⟨?_, fun p hp => absurd hp (hnone p), fun p hp => absurd hp (hnone p),
    fun p q hp => absurd hp (hnone p)⟩
  intro w hw
  rw [List.mem_singleton.mp hw]
  exact Session.sound_start settings draw recovery

section Events

variable {d t : Desk} {event : Event}

lemma precedes_after (d : Desk) (event : Event) :
    d.session.ids.Precedes (d.after event).session.ids := by
  cases event with
  | perform op => exact d.session.precedes_perform op
  | save => exact .refl _
  | reopen settings disk path =>
    rw [after]
    split <;> exact .refl _

/-- All that an event adds to what is held are the data of one run. -/
lemma holds_after (hallows : d.Allows event) :
    (∀ p, (d.after event).Holds p → d.Holds p) ∨
      ∃ data : ProjectData, data.Consistent ∧
        data.DrawnFrom d.session.ids.drawn (d.after event).session.ids ∧
        ∀ p, (d.after event).Holds p → d.Holds p ∨ p = data := by
  cases event with
  | perform op =>
    rcases d.session.perform_cases op with ⟨failure, h⟩ | ⟨answer, data, ids, hfinds, h⟩
    · left
      rw [after, h]
      exact fun p hp => hp
    · right
      rw [after, h]
      refine ⟨data, hfinds.consistent, hfinds.drawnFrom, ?_⟩
      rintro p ⟨w, hw, hp⟩
      rcases List.mem_cons.mp hw with rfl | hw
      · exact (Store.mem_of_mem_replaceIn hp).imp_left holds_of_mem
      · exact .inl ⟨w, List.mem_cons_of_mem _ hw, hp⟩
  | save =>
    left
    rintro p ⟨w, hw, hp⟩
    rcases List.mem_cons.mp hw with rfl | hw
    · exact holds_of_mem hp
    · exact ⟨w, hw, hp⟩
  | reopen settings disk path =>
    left
    rw [after]
    split
    · rename_i w hload
      obtain ⟨w', hw', hpart⟩ := projects_of_reopen hallows hload
      rintro p ⟨v, hv, hp⟩
      rcases List.mem_cons.mp hv with rfl | hv
      · exact ⟨w', hw', hpart.subset hp⟩
      · exact ⟨v, List.mem_cons_of_mem _ hv, hp⟩
    · exact fun p hp => hp

lemma Sound.workspaces_after (hd : d.Sound) (hallows : d.Allows event)
    (hids : (d.after event).session.ids.Distinct) :
    ∀ w ∈ (d.after event).workspaces, Session.Sound ⟨w, (d.after event).session.ids⟩ := by
  have hold : ∀ w ∈ d.workspaces, Session.Sound ⟨w, (d.after event).session.ids⟩ :=
    fun w hw => (hd.workspaces w hw).mono (d.precedes_after event)
  intro w hw
  cases event with
  | perform op =>
    rcases List.mem_cons.mp hw with rfl | hw
    · exact (hd.workspaces _ List.mem_cons_self).perform op hids
    · exact hold w (List.mem_cons_of_mem _ hw)
  | save =>
    rcases List.mem_cons.mp hw with rfl | hw
    · exact hold _ List.mem_cons_self
    · exact hold w hw
  | reopen settings disk path =>
    rw [after] at hw hold ⊢
    split at hw
    · rename_i v hload
      obtain ⟨w', hw', hpart⟩ := projects_of_reopen hallows hload
      rcases List.mem_cons.mp hw with rfl | hw
      · exact (hd.workspaces w' hw').of_sublist hpart
      · exact hd.workspaces w (List.mem_cons_of_mem _ hw)
    · exact hd.workspaces w hw

/-- An event keeps a desk sound. -/
lemma Sound.after (hd : d.Sound) (hallows : d.Allows event)
    (hids : (d.after event).session.ids.Distinct) : (d.after event).Sound := by
  have hprecedes := d.precedes_after event
  have hold : ∀ p, d.Holds p → p.DrawnFrom 0 (d.after event).session.ids :=
    fun p hp => (hd.drawn p hp).mono (Nat.le_refl _) hprecedes
  rcases holds_after hallows with hholds | ⟨data, hconsistent, hdrawn, hholds⟩
  · exact ⟨hd.workspaces_after hallows hids, fun p hp => hd.consistent p (hholds p hp),
      fun p hp => hold p (hholds p hp),
      fun p q hp hq => hd.batch p q (hholds p hp) (hholds q hq)⟩
  refine ⟨hd.workspaces_after hallows hids, ?_, ?_, ?_⟩
  · intro p hp
    rcases hholds p hp with hp | rfl
    · exact hd.consistent p hp
    · exact hconsistent
  · intro p hp
    rcases hholds p hp with hp | rfl
    · exact hold p hp
    · exact hdrawn.mono (Nat.zero_le _) (.refl _)
  · -- Of data that were held before and data of the run, the second have later identifiers.
    intro p q hp hq x hx y hy heq
    rcases hholds p hp with hp | rfl <;> rcases hholds q hq with hq | rfl
    · exact hd.batch p q hp hq x hx y hy heq
    · exact absurd heq ((hd.drawn p hp).ne hdrawn hprecedes hids hx hy)
    · exact absurd heq.symm ((hd.drawn q hq).ne hdrawn hprecedes hids hy hx)
    · rfl

end Events

/-! ### What every history keeps up -/

section Histories

variable {d t : Desk}

lemma Reaches.refl : d.Reaches d := Relation.ReflTransGen.refl

lemma Reaches.after (h : d.Reaches t) (event : Event) (hallows : t.Allows event) :
    d.Reaches (t.after event) :=
  h.tail ⟨event, hallows, rfl⟩

/-- What is made of files with syntax errors stays as it is. -/
lemma recovery_after (d : Desk) (event : Event) :
    (d.after event).session.workspace.recovery = d.session.workspace.recovery := by
  cases event with
  | perform op =>
    rcases d.session.perform_cases op with ⟨failure, h⟩ | ⟨answer, data, ids, -, h⟩ <;>
      rw [after, h]
  | save => rfl
  | reopen settings disk path =>
    rw [after]
    split
    · rename_i w hload
      exact (Workspace.load_inv hload).1
    · rfl

lemma Reaches.recovery_eq (h : d.Reaches t) :
    t.session.workspace.recovery = d.session.workspace.recovery := by
  induction h with
  | refl => rfl
  | tail _ hstep ih =>
    obtain ⟨event, -, rfl⟩ := hstep
    rw [recovery_after, ih]

lemma Reaches.precedes (h : d.Reaches t) : d.session.ids.Precedes t.session.ids := by
  induction h with
  | refl => exact .refl _
  | tail _ hstep ih =>
    obtain ⟨event, -, rfl⟩ := hstep
    exact ih.trans (precedes_after _ event)

/-- A history keeps a desk sound. -/
lemma Sound.reaches (hd : d.Sound) (h : d.Reaches t) (hids : t.session.ids.Distinct) :
    t.Sound := by
  induction h with
  | refl => exact hd
  | tail _ hstep ih =>
    obtain ⟨event, hallows, rfl⟩ := hstep
    exact (ih (hids.of_precedes (precedes_after _ event))).after hallows hids

/-- What is held after a history was held before it, or has identifiers drawn since. -/
lemma Reaches.holds (h : d.Reaches t) {p : ProjectData} (hp : t.Holds p) :
    d.Holds p ∨ p.DrawnFrom d.session.ids.drawn t.session.ids := by
  induction h with
  | refl => exact .inl hp
  | tail hreach hstep ih =>
    obtain ⟨event, hallows, rfl⟩ := hstep
    have hback := fun hp => (ih hp).imp_right fun hdrawn =>
      hdrawn.mono (Nat.le_refl _) (precedes_after _ event)
    rcases holds_after hallows with hholds | ⟨data, -, hdrawn, hholds⟩
    · exact hback (hholds p hp)
    · rcases hholds p hp with hp | rfl
      · exact hback hp
      · exact .inr (hdrawn.mono (Reaches.precedes hreach).drawn_le (.refl _))

/-- Data that share the identifier of an endpoint with data that were held before have the same
batch as these. -/
lemma Sound.batch_of_reaches (hd : d.Sound) (h : d.Reaches t) (hids : t.session.ids.Distinct)
    {p q : ProjectData} (hp : d.Holds p) (hq : t.Holds q) {x y : Endpoint}
    (hx : x ∈ p.endpoints) (hy : y ∈ q.endpoints) (heq : x.id = y.id) : p.batch = q.batch := by
  rcases h.holds hq with hq | hdrawn
  · exact hd.batch p q hp hq x hx y hy heq
  · exact absurd heq ((hd.drawn p hp).ne hdrawn h.precedes hids hx hy)

end Histories

end Desk

end Cartograph
