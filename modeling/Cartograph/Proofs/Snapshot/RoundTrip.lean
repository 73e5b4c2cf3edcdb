import Cartograph.Proofs.Text.Bytes
import Cartograph.Workspace
import Mathlib.Data.List.Basic
import Mathlib.Data.Nat.Basic

/-!
# Snapshots read back

A store that is written and read again is the same store. The number of its projects is written in
eight bytes, so of a store with more projects than eight bytes can count a first part comes back;
in any case no project is altered, added or moved.
-/

namespace Cartograph

namespace Codec

/-- Of a number that is too large for its bytes the remainder comes back. -/
lemma takeFixed_putFixed_mod (width n : Nat) (rest : List UInt8) :
    takeFixed width (putFixed width n ++ rest) = some (n % capacity width, rest) := by
  induction width generalizing n with
  | zero => simp [putFixed, takeFixed, capacity, Nat.mod_one]
  | succ width ih =>
    have hbyte : n % 256 % 256 = n % 256 := Nat.mod_mod n 256
    simp [putFixed, takeFixed, capacity, ih, UInt8.toNat_ofNat', hbyte, Nat.mod_mul]

/-- Fewer values than were written can be read. -/
lemma takeMany_flatMap_take {α : Type} (c : Codec α) (as : List α) {count : Nat}
    (h : count ≤ as.length) :
    ∃ rest, takeMany c count (as.flatMap c.put) = some (as.take count, rest) := by
  have htake := takeMany_flatMap c (as.take count) ((as.drop count).flatMap c.put)
  rw [List.length_take_of_le h, ← List.flatMap_append, List.take_append_drop] at htake
  exact ⟨_, htake⟩

end Codec

namespace Snapshot

open Codec

lemma decode_encode_take (s : Store) :
    decode (encode s) = .ok ⟨s.projects.take (s.projects.length % capacity 8)⟩ := by
  obtain ⟨rest, hmany⟩ := takeMany_flatMap_take project s.projects
    (Nat.mod_le s.projects.length (capacity 8))
  have hversion : version % capacity 4 = version := by decide
  simp [decode, encode, takeStore?, takeFixed_putFixed_mod, List.append_assoc, hmany, hversion]

/-- Reading undoes writing, as long as eight bytes can count the projects. -/
lemma decode_encode {s : Store} (h : s.projects.length < capacity 8) :
    decode (encode s) = .ok s := by
  rw [decode_encode_take, Nat.mod_eq_of_lt h, List.take_length]

end Snapshot

/-! ### Files -/

namespace Workspace

lemma toList_snapshot (w : Workspace) : w.snapshot.toList = Snapshot.encode w.store := by
  rw [toList_byteArray]
  rfl

/-- What an opened workspace holds comes from the file, if there is one; the recovery is given. -/
lemma load_inv {w : Workspace} {settings : Settings} {d : Disk} {path : String}
    {recovery : Java.Recovery} (h : load settings d path recovery = .ok w) :
    w.recovery = recovery ∧ (w.store.projects = [] ∨
      ∃ content, d.read path = .ok content ∧ Snapshot.decode content.toList = .ok w.store) := by
  unfold load at h
  split_ifs at h with hexists
  · cases hread : d.read path with
    | error fault => simp [hread] at h
    | ok content =>
      rw [hread] at h
      cases hdecode : Snapshot.decode content.toList with
      | error failure => simp [hdecode, Except.map] at h
      | ok store =>
        simp only [hdecode, Except.map, Except.ok.injEq] at h
        subst h
        exact ⟨rfl, .inr ⟨content, rfl, hdecode⟩⟩
  · cases h
    exact ⟨rfl, .inl rfl⟩

lemma load_snapshot {w : Workspace} {d : Disk} {path : String} (hexists : d.exists? path = true)
    (hread : d.read path = .ok w.snapshot) (hlt : w.store.projects.length < Codec.capacity 8)
    (settings : Settings) (recovery : Java.Recovery) :
    load settings d path recovery = .ok { settings, store := w.store, recovery } := by
  rw [load, if_pos hexists, hread]
  simp only [toList_snapshot, Snapshot.decode_encode hlt, Except.map]

/-- The projects that are read from a snapshot are the first ones of those saved. -/
lemma projects_of_decode_snapshot {w : Workspace} {store : Store}
    (h : Snapshot.decode w.snapshot.toList = .ok store) :
    store.projects <+: w.store.projects := by
  rw [toList_snapshot, Snapshot.decode_encode_take] at h
  cases h
  exact List.take_prefix _ _

end Workspace

end Cartograph
