import Cypfr.Model.LocationApiPbPayload

/-! # Messages that fit

A decoder stays inside the fields of a message and the arrays that it is read into exactly when the message fits: a
field is no longer than its array where only its size bounds the copies, and no shorter than their number where
another field or a constant gives it. What is then read is what the decoders without bounds read.
-/

namespace Cypfr.LocationApiPb

section Bind

variable {α β : Type} {x : Option α} {f : α → Option β} {P : Prop}

/-- A copy, and what comes after it. -/
theorem isSome_bind_iff (rest : ∀ a, (f a).isSome = true ↔ P) :
    (x.bind f).isSome = true ↔ x.isSome = true ∧ P := by
  cases x with
  | none => exact iff_of_false Bool.false_ne_true fun both => Bool.false_ne_true both.1
  | some a => exact (rest a).trans (and_iff_right rfl).symm

/-- A copy that is the last. -/
theorem isSome_bind_some_iff {g : α → β} : (x.bind fun a => some (g a)).isSome = true ↔ x.isSome = true := by
  cases x <;> rfl

end Bind

/-- The measurements that are used and the three velocities are there. -/
def PBGnssLocationInfoNotification.Fits (pb : PBGnssLocationInfoNotification) : Prop :=
  min pb.numOfMeasReceived.toNat GNSS_SV_MAX ≤ pb.measUsageInfo.length ∧ 3 ≤ pb.enuVelocityVRPBased.length

/-- Each field has an element for each type of signal. -/
def PBGnssDataNotification.Fits (pb : PBGnssDataNotification) : Prop :=
  let arrMaxLen := min pb.numberSignalTypes.toNat GNSS_LOC_MAX_NUMBER_OF_SIGNAL_TYPES
  arrMaxLen ≤ pb.gnssDataMask.length ∧ arrMaxLen ≤ pb.jammerInd.length ∧ arrMaxLen ≤ pb.agc.length

section Inside

theorem isSome_pbConvertToGfAddReqPayload (gfPayload : List PBGeofencePayload) (payload : GeofencesAddedReqPayload) :
    (pbConvertToGfAddReqPayload gfPayload payload).isSome = true ↔ gfPayload.length ≤ MAX_GEOFENCE_ENTRY := by
  refine isSome_bind_some_iff.trans ?_
  rw [Vector.isSome_copy, and_iff_right (Nat.le_refl _)]

theorem isSome_pbConvertToGfReqClientIdPayload (gfIds : List (BitVec 32)) (payload : GeofencesReqClientIdPayload) :
    (pbConvertToGfReqClientIdPayload gfIds payload).isSome = true ↔ gfIds.length ≤ MAX_GEOFENCE_ENTRY := by
  refine isSome_bind_some_iff.trans ?_
  rw [Vector.isSome_copy, and_iff_right (Nat.le_refl _)]

theorem isSome_pbConvertToGnssLocInfoNotif (pb : PBGnssLocationInfoNotification)
    (notif : GnssLocationInfoNotification) :
    (pbConvertToGnssLocInfoNotif? pb notif).isSome = true ↔ pb.Fits := by
  refine (isSome_bind_iff fun _ => isSome_bind_some_iff).trans ?_
  rw [Vector.isSome_copy, Vector.isSome_copy, and_iff_left (Nat.min_le_right _ _), and_iff_left (Nat.le_refl 3)]
  rfl

theorem isSome_pbConvertToGnssSvNotif (pb : PBLocApiGnssSvNotification) (notif : GnssSvNotification) :
    (pbConvertToGnssSvNotif? pb notif).isSome = true := by
  refine isSome_bind_some_iff.mpr ?_
  rw [Vector.isSome_copy]
  exact ⟨Nat.min_le_left _ _, Nat.min_le_right _ _⟩

theorem isSome_pbConvertToGnssDataNotification (pb : PBGnssDataNotification) (notif : GnssDataNotification) :
    (pbConvertToGnssDataNotification pb notif).isSome = true ↔ pb.Fits := by
  refine (isSome_bind_iff fun _ => isSome_bind_iff fun _ => isSome_bind_some_iff).trans ?_
  have room := Nat.min_le_right pb.numberSignalTypes.toNat GNSS_LOC_MAX_NUMBER_OF_SIGNAL_TYPES
  rw [Vector.isSome_copy, Vector.isSome_copy, Vector.isSome_copy, and_iff_left room, and_iff_left room,
    and_iff_left room]
  rfl

theorem isSome_pbConvertToGnssMeasNotification (pb : PBGnssMeasurementsNotification)
    (notif : GnssMeasurementsNotification) :
    (pbConvertToGnssMeasNotification? pb notif).isSome = true ↔ pb.measurements.length ≤ GNSS_MEASUREMENTS_MAX := by
  refine isSome_bind_some_iff.trans ?_
  rw [Vector.isSome_copy, and_iff_right (Nat.le_refl _)]

end Inside

section Values

/-- A report of a position that fits is read as without bounds. -/
theorem pbConvertToGnssLocInfoNotif_of_fits {pb : PBGnssLocationInfoNotification} (fits : pb.Fits)
    (notif : GnssLocationInfoNotification) :
    pbConvertToGnssLocInfoNotif? pb notif = some (pbConvertToGnssLocInfoNotif pb notif) := by
  rw [pbConvertToGnssLocInfoNotif?, Vector.copy_eq _ fits.1 (Nat.min_le_right _ _),
    Vector.copy_eq _ fits.2 (Nat.le_refl 3), List.map_id]
  rfl

theorem pbConvertToGnssSvNotif_eq (pb : PBLocApiGnssSvNotification) (notif : GnssSvNotification) :
    pbConvertToGnssSvNotif? pb notif = some (pbConvertToGnssSvNotif pb notif) := by
  rw [pbConvertToGnssSvNotif?, Vector.copy_eq _ (Nat.min_le_left _ _) (Nat.min_le_right _ _)]
  rfl

/-- A report of measurements that fits is read as without bounds. -/
theorem pbConvertToGnssMeasNotification_of_le {pb : PBGnssMeasurementsNotification}
    (room : pb.measurements.length ≤ GNSS_MEASUREMENTS_MAX) (notif : GnssMeasurementsNotification) :
    pbConvertToGnssMeasNotification? pb notif = some (pbConvertToGnssMeasNotification pb notif) := by
  rw [pbConvertToGnssMeasNotification?, Vector.copy_eq _ (Nat.le_refl _) room, List.take_length]
  rfl

end Values

/-- A decoder with the message it is given and what it is to be read into. -/
inductive Decoding where
  | gfAddReqPayload (gfPayload : List PBGeofencePayload) (payload : GeofencesAddedReqPayload)
  | gfReqClientIdPayload (gfIds : List (BitVec 32)) (payload : GeofencesReqClientIdPayload)
  | gnssLocInfoNotif (pb : PBGnssLocationInfoNotification) (notif : GnssLocationInfoNotification)
  | gnssSvNotif (pb : PBLocApiGnssSvNotification) (notif : GnssSvNotification)
  | gnssDataNotification (pb : PBGnssDataNotification) (notif : GnssDataNotification)
  | gnssMeasNotification (pb : PBGnssMeasurementsNotification) (notif : GnssMeasurementsNotification)

namespace Decoding

/-- The decoder reads no field past its end and writes no array past its own. -/
def Inside : Decoding → Prop
  | gfAddReqPayload gfPayload payload => (pbConvertToGfAddReqPayload gfPayload payload).isSome = true
  | gfReqClientIdPayload gfIds payload => (pbConvertToGfReqClientIdPayload gfIds payload).isSome = true
  | gnssLocInfoNotif pb notif => (pbConvertToGnssLocInfoNotif? pb notif).isSome = true
  | gnssSvNotif pb notif => (pbConvertToGnssSvNotif? pb notif).isSome = true
  | gnssDataNotification pb notif => (pbConvertToGnssDataNotification pb notif).isSome = true
  | gnssMeasNotification pb notif => (pbConvertToGnssMeasNotification? pb notif).isSome = true

/-- The message has what the decoder reads, and the arrays have room for it. -/
def Fits : Decoding → Prop
  | gfAddReqPayload gfPayload _ => gfPayload.length ≤ MAX_GEOFENCE_ENTRY
  | gfReqClientIdPayload gfIds _ => gfIds.length ≤ MAX_GEOFENCE_ENTRY
  | gnssLocInfoNotif pb _ => pb.Fits
  | gnssSvNotif _ _ => True
  | gnssDataNotification pb _ => pb.Fits
  | gnssMeasNotification pb _ => pb.measurements.length ≤ GNSS_MEASUREMENTS_MAX

end Decoding

/-- A decoder stays inside exactly when its message fits. -/
theorem decoders_inside_iff (decoding : Decoding) : decoding.Inside ↔ decoding.Fits := by
  cases decoding with
  | gfAddReqPayload gfPayload payload => exact isSome_pbConvertToGfAddReqPayload gfPayload payload
  | gfReqClientIdPayload gfIds payload => exact isSome_pbConvertToGfReqClientIdPayload gfIds payload
  | gnssLocInfoNotif pb notif => exact isSome_pbConvertToGnssLocInfoNotif pb notif
  | gnssSvNotif pb notif => exact iff_of_true (isSome_pbConvertToGnssSvNotif pb notif) trivial
  | gnssDataNotification pb notif => exact isSome_pbConvertToGnssDataNotification pb notif
  | gnssMeasNotification pb notif => exact isSome_pbConvertToGnssMeasNotification pb notif

/-- A request with twenty-one geofences is written past the array. -/
theorem twentyOne_geofences_outside : ¬ ∀ decoding : Decoding, decoding.Inside := by
  intro inside
  have room := (isSome_pbConvertToGfReqClientIdPayload _ ⟨0, .replicate _ 0⟩).mp
    (inside (.gfReqClientIdPayload (List.replicate 21 0) ⟨0, .replicate _ 0⟩))
  rw [List.length_replicate] at room
  exact absurd room (by decide)

end Cypfr.LocationApiPb
