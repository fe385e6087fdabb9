import ChargePoint.Proofs.Json.Depth
import ChargePoint.Proofs.Message.Normal

/-!
# How deep payloads are

A message is written as an object whose values are no deeper than what they were read from, whatever
the form of the payload was.  So the payload of a message that was decoded keeps to any limit that
the decoded payload kept to.

## Main results

* `Structure.depth_canonical_object_le`: an object is no deeper than the structure it was read from,
  once none of its values is.
* `Message.depth_canonical_write_le`: a message is written no deeper than it was read.
-/

namespace ChargePoint

/-! ### Structures -/

namespace Structure

variable {ι : Type} {s : Structure ι} {v : Json}

/-- A part is less deep than what it is a part of. -/
theorem depth_lt_of_part {w : Json} {i : ι} {slot : Slot s.fields i}
    (h : s.part v slot = some w) : w.depth < v.depth := by
  have given : s.given v slot = some w := (part_eq_some_iff.1 h).1
  cases v with
  | object members =>
    have listed : members.lookup (s.label i) = some w := given
    exact Nat.lt_succ_of_le
      (Json.depthMembers_le_iff.1 (Nat.le_refl _) _ (Keyed.mem_of_lookup listed))
  | array items =>
    have listed : items[slot.position]? = some w := given
    exact Nat.lt_succ_of_le
      (Json.depthItems_le_iff.1 (Nat.le_refl _) w (List.mem_of_getElem? listed))
  | _ => cases given

theorem depth_pos_of_fits (fits : s.Fits v) : 0 < v.depth := by
  cases v with
  | object members => exact Nat.succ_pos _
  | array items => exact Nat.succ_pos _
  | _ => exact fits.elim

/-- **An object is no deeper than the structure it was read from**, once none of its values is
deeper than the part it was read from. -/
theorem depth_canonical_object_le (fits : s.Fits v) {entries : List (String × Json)}
    (distinct : (entries.map Prod.fst).Nodup)
    (known : ∀ name ∈ entries.map Prod.fst, name ∈ s.labels)
    (each : ∀ i (slot : Slot s.fields i),
      Option.Rel (fun part w => w.canonical.depth ≤ part.depth) (s.part v slot)
        (entries.lookup (s.label i))) :
    (Json.object entries).canonical.depth ≤ v.depth := by
  obtain ⟨limit, deep⟩ := Nat.exists_eq_succ_of_ne_zero (Nat.ne_of_gt (depth_pos_of_fits fits))
  rw [Json.canonical_object, deep, Json.depth_object_le_iff]
  intro entry member
  obtain ⟨⟨name, w⟩, written, rfl⟩ := Keyed.mem_mapValues_iff.1 (Keyed.mem_of_mem_ofList member)
  obtain ⟨i, hi, rfl⟩ := List.mem_map.1 (known name (List.mem_map_of_mem written))
  obtain ⟨slot⟩ := Slot.nonempty_of_mem hi
  have listed := (Keyed.lookup_eq_some_iff_mem distinct).2 written
  have there := each i slot
  rw [listed, rel_some_iff] at there
  obtain ⟨part, there, shallow⟩ := there
  have below := depth_lt_of_part there
  rw [deep] at below
  exact Nat.le_trans shallow (Nat.le_of_lt_succ below)

end Structure

/-! ### Contents -/

theorem CustomData.depth_canonical_write_le {w : Json} {c : CustomData} (canonical : w.Canonical)
    (read : c.ReadFrom w) : c.write.canonical.depth ≤ w.depth :=
  Nat.le_of_eq (congrArg Json.depth (canonical_write_of_readFrom canonical read))

/-- Status information is written no deeper than it was read: its custom data are not, and a string
is no deeper than anything. -/
theorem StatusInfo.depth_canonical_write_le {w : Json} {i : StatusInfo} (canonical : w.Canonical)
    (read : i.ReadFrom w) : i.write.canonical.depth ≤ w.depth := by
  obtain ⟨fits, customData, reasonCode, additionalInfo⟩ := read
  obtain ⟨first, second, third⟩ := lookup_written i
  show (Json.object i.written).canonical.depth ≤ w.depth
  refine Structure.depth_canonical_object_le fits (nodup_written i) (written_labels i)
    (forall_slot_iff.2 ⟨?_, ?_, ?_⟩)
  · rw [show i.written.lookup (form.label .customData) = _ from first]
    refine rel_map_of_rel customData fun part there c read => ?_
    have given := (Structure.part_eq_some_iff.1 there).1
    exact CustomData.depth_canonical_write_le (Structure.canonical_given canonical given) read
  · rw [show i.written.lookup (form.label .reasonCode) = _ from second]
    exact rel_some_iff.2 ⟨_, Structure.part_eq_some_iff.2 ⟨reasonCode, rfl⟩, Nat.zero_le _⟩
  · rw [show i.written.lookup (form.label .additionalInfo) = _ from third]
    refine rel_map_of_rel (rel_eq_map_iff.2 additionalInfo) fun part there text _ => ?_
    exact Nat.zero_le _

/-- A content is written no deeper than it was read. -/
theorem Kind.depth_canonical_write_le {k : Kind} {w : Json} {x : k.Value} (canonical : w.Canonical)
    (read : k.ReadFrom w x) : (k.write x).canonical.depth ≤ w.depth := by
  cases k with
  | text limit => exact Nat.zero_le _
  | status v => exact Nat.zero_le _
  | integer => exact Nat.zero_le _
  | instant => exact Nat.zero_le _
  | customData => exact CustomData.depth_canonical_write_le canonical read
  | statusInfo => exact StatusInfo.depth_canonical_write_le canonical read
  | data =>
    obtain rfl : x = VendorValue.ofJson w := read
    exact Nat.le_of_eq (congrArg Json.depth (VendorValue.canonical_write_ofJson canonical))

/-! ### Messages -/

/-- **A message is written no deeper than it was read.** -/
theorem Message.depth_canonical_write_le {t : MessageType} {v : Json} {m : Message t}
    (canonical : v.Canonical) (read : m.ReadFrom v) : m.write.canonical.depth ≤ v.depth := by
  obtain ⟨fits, read⟩ := read
  have distinct := t.labels_nodup
  have names := names_written_sublist m.contents
  show (Json.object (written m.contents)).canonical.depth ≤ v.depth
  refine Structure.depth_canonical_object_le fits (names.nodup distinct) names.subset
    fun f slot => ?_
  rw [show (written m.contents).lookup (t.form.label f) = _ from
    lookup_written distinct m.contents slot]
  refine rel_map_of_rel (read f slot) fun part there x known => ?_
  have given := (Structure.part_eq_some_iff.1 there).1
  exact Kind.depth_canonical_write_le (Structure.canonical_given canonical given) known

end ChargePoint
