/-
**The event envelope.**

A live record is a header of eighteen bytes, the two identities and the payload. The encoder writes the
header from an envelope it has checked; the decoder reads it back, checks its lengths and checks the
envelope again.

- `encodeRecord_eq_ok_iff`: what the encoder accepts, and what it writes.
- `decodeRecord_frame`: the decoder reads what was written.
- `frame_of_decodeRecord`: what the decoder accepts was written by the encoder.
-/

import Detrix.Ebpf.CapturePlan
import Detrix.Library.Bytes

namespace Detrix.Ebpf

open Library Bytes List UInt16

/-! ### Envelopes -/

def maxIdentityBytes : Nat := 1024

inductive EnvelopeError where
  | unknownSchema (version : UInt16)
  | missingIdentity
  | oversized (size limit : Nat)
  | lengthMismatch (declared actual : Nat)
  | malformedHeader
  | invalidIdentity
  | unknownProfile (profile : String)
  | identityTooLong
  | invalidFieldCount (count limit : Nat)
  | unknownFlags (flags : UInt16)
  deriving DecidableEq

structure WireCapabilities where
  supportedSchemaVersions : List UInt16
  supportedProfiles : List String
  maxPayloadBytes : Nat

/-- `WireCapabilities::default`. -/
def WireCapabilities.standard : WireCapabilities := ⟨[capturePlanSchemaVersion], ["go", "rust"], 4096⟩

def WireCapabilities.negotiate (capabilities : WireCapabilities) (schemaVersion : UInt16)
    (profileId : String) (maxPayloadBytes : Nat) : Except EnvelopeError Unit :=
  if !capabilities.supportedSchemaVersions.contains schemaVersion then
    .error (.unknownSchema schemaVersion)
  else if !capabilities.supportedProfiles.contains profileId then .error (.unknownProfile profileId)
  else if maxPayloadBytes > capabilities.maxPayloadBytes then
    .error (.oversized maxPayloadBytes capabilities.maxPayloadBytes)
  else .ok ()

structure EventEnvelope where
  schemaVersion : UInt16
  profileId : String
  planHash : String
  fieldCount : UInt16
  payloadLen : UInt32
  isPartial : Bool
  isUnavailable : Bool

namespace EventEnvelope

/-- `EventEnvelope::new`; the length is cut to 32 bits. -/
def new (profileId planHash : String) (fieldCount : UInt16) (payloadLen : Nat) : EventEnvelope :=
  ⟨capturePlanSchemaVersion, profileId, planHash, fieldCount, UInt32.ofNat payloadLen, false, false⟩

def validateWithCapabilities (e : EventEnvelope) (capabilities : WireCapabilities) :
    Except EnvelopeError Unit :=
  if e.schemaVersion ≠ capturePlanSchemaVersion then .error (.unknownSchema e.schemaVersion)
  else if e.profileId = "" ∨ e.planHash = "" then .error .missingIdentity
  else if (utf8 e.profileId).length > maxIdentityBytes ∨ (utf8 e.planHash).length > maxIdentityBytes then
    .error .identityTooLong
  else if e.fieldCount = 0 ∨ e.fieldCount.toNat > maxCaptureFields then
    .error (.invalidFieldCount e.fieldCount.toNat maxCaptureFields)
  else if e.payloadLen.toNat > maxCapturePayloadBytes then
    .error (.oversized e.payloadLen.toNat maxCapturePayloadBytes)
  else capabilities.negotiate e.schemaVersion e.profileId e.payloadLen.toNat

/-- `EventEnvelope::validate`: the standard capabilities with another payload limit. -/
def validate (e : EventEnvelope) (maxPayload : Nat) : Except EnvelopeError Unit :=
  e.validateWithCapabilities { WireCapabilities.standard with maxPayloadBytes := maxPayload }

structure Valid (e : EventEnvelope) (maxPayload : Nat) : Prop where
  schema : e.schemaVersion = capturePlanSchemaVersion
  profile : e.profileId = "go" ∨ e.profileId = "rust"
  planNonempty : e.planHash ≠ ""
  planShort : (utf8 e.planHash).length ≤ maxIdentityBytes
  hasFields : e.fieldCount ≠ 0
  fewFields : e.fieldCount.toNat ≤ maxCaptureFields
  underCeiling : e.payloadLen.toNat ≤ maxCapturePayloadBytes
  underLimit : e.payloadLen.toNat ≤ maxPayload

theorem utf8_profile_length {profile : String} (known : profile = "go" ∨ profile = "rust") :
    0 < (utf8 profile).length ∧ (utf8 profile).length ≤ 4 := by
  rcases known with rfl | rfl <;> decide

variable {maxPayload : Nat} {e : EventEnvelope} {payload : List UInt8}

theorem validate_eq_ok_iff : e.validate maxPayload = .ok () ↔ e.Valid maxPayload := by
  have supported : e.profileId = "go" ∨ e.profileId = "rust" ↔
      ¬ (! ["go", "rust"].contains e.profileId) = true := by simp [or_iff_not_imp_left]
  simp only [validate, validateWithCapabilities, WireCapabilities.negotiate, WireCapabilities.standard,
    ite_error_eq_ok, Classical.not_not, not_or, not_lt, ← supported]
  constructor
  · rintro ⟨schema, named, short, counted, underCeiling, -, profile, underLimit, -⟩
    exact ⟨schema, profile, named.2, short.2, counted.1, counted.2, underCeiling, underLimit⟩
  · rintro ⟨schema, profile, planNonempty, planShort, hasFields, fewFields, underCeiling, underLimit⟩
    have short := (utf8_profile_length profile).2
    have some : e.profileId ≠ "" := by
      rcases profile with is | is <;> rw [is] <;> decide
    refine ⟨schema, ⟨some, planNonempty⟩, ⟨?_, planShort⟩, ⟨hasFields, fewFields⟩, underCeiling,
      by simp [schema], profile, underLimit, trivial⟩
    unfold maxIdentityBytes
    omega

/-! ### Flags -/

/-- Bit 0 says that the payload is partial, bit 1 that it is unavailable. -/
def flags (e : EventEnvelope) : UInt16 :=
  (if e.isPartial then 1 else 0) ||| (if e.isUnavailable then 2 else 0)

/-- A word is made of the bits under a mask and the others. -/
theorem mask_or_rest (x mask : UInt16) : (x &&& mask) ||| (x &&& ~~~mask) = x := by
  apply UInt16.toBitVec_inj.mp
  rw [UInt16.toBitVec_or, UInt16.toBitVec_and, UInt16.toBitVec_and, UInt16.toBitVec_not]
  ext i mem
  rw [BitVec.getElem_or, BitVec.getElem_and, BitVec.getElem_and, BitVec.getElem_not]
  cases mask.toBitVec[i] <;> simp

theorem flags_of_known {flags : UInt16} (known : flags &&& ~~~3 = 0) :
    (if decide (flags &&& 1 ≠ 0) then 1 else 0) ||| (if decide (flags &&& 2 ≠ 0) then 2 else 0) =
      flags := by
  have low : flags &&& 3 = flags := by
    have parts := mask_or_rest flags 3
    rwa [known, UInt16.or_zero] at parts
  have small : flags.toNat < 4 := by
    rw [← low, UInt16.toNat_and]
    exact Nat.lt_of_le_of_lt Nat.and_le_right (by decide)
  have cases : flags = 0 ∨ flags = 1 ∨ flags = 2 ∨ flags = 3 := by
    simp only [← UInt16.toNat_inj]
    have eq : (0 : UInt16).toNat = 0 ∧ (1 : UInt16).toNat = 1 ∧ (2 : UInt16).toNat = 2 ∧
      (3 : UInt16).toNat = 3 := by decide
    omega
  rcases cases with rfl | rfl | rfl | rfl <;> decide

theorem flags_known (e : EventEnvelope) : e.flags &&& ~~~3 = 0 := by
  unfold flags
  split <;> split <;> decide

/-! ### Records -/

/-- `b"DRX1"`. -/
def magic : List UInt8 := [68, 82, 88, 49]

def headerSize : Nat := 18

def frame (e : EventEnvelope) (payload : List UInt8) : List UInt8 :=
  magic ++ u16Bytes e.schemaVersion ++ u16Bytes e.flags ++
    u16Bytes (ofNat (utf8 e.profileId).length) ++ u16Bytes e.fieldCount ++
    u16Bytes (ofNat (utf8 e.planHash).length) ++ u32Bytes e.payloadLen ++
    utf8 e.profileId ++ utf8 e.planHash ++ payload

def encodeRecord (e : EventEnvelope) (payload : List UInt8) (maxPayload : Nat) :
    Except EnvelopeError (List UInt8) :=
  if e.payloadLen.toNat ≠ payload.length then
    .error (.lengthMismatch e.payloadLen.toNat payload.length)
  else
    match e.validate maxPayload with
    | .error error => .error error
    | .ok () =>
      if (utf8 e.profileId).length > maxIdentityBytes ∨ (utf8 e.planHash).length > maxIdentityBytes then
        .error .identityTooLong
      else .ok (e.frame payload)

def u16At (record : List UInt8) (i : Nat) : Except EnvelopeError UInt16 :=
  match slice record i (i + 2) with
  | some bytes => .ok (u16Of bytes)
  | none => .error .malformedHeader

def u32At (record : List UInt8) (i : Nat) : Except EnvelopeError UInt32 :=
  match slice record i (i + 4) with
  | some bytes => .ok (u32Of bytes)
  | none => .error .malformedHeader

def identity (bytes : List UInt8) : Except EnvelopeError String :=
  match fromUtf8 bytes with
  | some text => .ok text
  | none => .error .invalidIdentity

structure Header where
  schemaVersion : UInt16
  flags : UInt16
  profileLen : UInt16
  fieldCount : UInt16
  planLen : UInt16
  payloadLen : UInt32

/-- The part of `decode_record` after the header has been read. -/
def decodeIdentities (record : List UInt8) (h : Header) (maxPayload : Nat) :
    Except EnvelopeError (EventEnvelope × List UInt8) :=
  if h.profileLen.toNat = 0 ∨ h.planLen.toNat = 0 then .error .missingIdentity
  else if h.profileLen.toNat > maxIdentityBytes ∨ h.planLen.toNat > maxIdentityBytes then
    .error .identityTooLong
  else
    match (checkedAdd headerSize h.profileLen.toNat).bind (checkedAdd · h.planLen.toNat) with
    | none => .error .malformedHeader
    | some identityEnd =>
      match checkedAdd identityEnd h.payloadLen.toNat with
      | none => .error .malformedHeader
      | some stop =>
        if stop ≠ record.length then .error (.lengthMismatch stop record.length)
        else do
          let planStart := headerSize + h.profileLen.toNat
          let profileId ← identity ((record.drop headerSize).take h.profileLen.toNat)
          let planHash ← identity ((record.drop planStart).take (identityEnd - planStart))
          let envelope : EventEnvelope :=
            ⟨h.schemaVersion, profileId, planHash, h.fieldCount, h.payloadLen, h.flags &&& 1 ≠ 0,
              h.flags &&& 2 ≠ 0⟩
          envelope.validate maxPayload
          return (envelope, record.drop identityEnd)

def decodeRecord (record : List UInt8) (maxPayload : Nat) :
    Except EnvelopeError (EventEnvelope × List UInt8) :=
  if record.length < headerSize ∨ record.take 4 ≠ magic then .error .malformedHeader
  else do
    let schemaVersion ← u16At record 4
    let flags ← u16At record 6
    if flags &&& ~~~3 ≠ 0 then .error (.unknownFlags flags)
    else
      let profileLen ← u16At record 8
      let fieldCount ← u16At record 10
      let planLen ← u16At record 12
      let payloadLen ← u32At record 14
      decodeIdentities record ⟨schemaVersion, flags, profileLen, fieldCount, planLen, payloadLen⟩ maxPayload

/-! ### The encoder -/

structure Fits (e : EventEnvelope) (payload : List UInt8) (maxPayload : Nat) : Prop where
  length : e.payloadLen.toNat = payload.length
  valid : e.Valid maxPayload

theorem Fits.profile_length (fits : e.Fits payload maxPayload) :
    0 < (utf8 e.profileId).length ∧ (utf8 e.profileId).length ≤ 4 :=
  utf8_profile_length fits.valid.profile

theorem Fits.plan_length (fits : e.Fits payload maxPayload) :
    0 < (utf8 e.planHash).length ∧ (utf8 e.planHash).length ≤ maxIdentityBytes :=
  ⟨length_pos_of_ne_nil fun empty => fits.valid.planNonempty (utf8_eq_nil_iff.mp empty),
    fits.valid.planShort⟩

theorem encodeRecord_eq_ok_iff {record : List UInt8} :
    e.encodeRecord payload maxPayload = .ok record ↔
      e.Fits payload maxPayload ∧ e.frame payload = record := by
  unfold encodeRecord
  constructor
  · intro encoded
    obtain ⟨length, encoded⟩ := ite_error_eq_ok.mp encoded
    split at encoded
    · cases encoded
    rename_i ok
    have framed := (ite_error_eq_ok.mp encoded).2
    exact ⟨⟨not_not.mp length, validate_eq_ok_iff.mp ok⟩, Except.ok.inj framed⟩
  · rintro ⟨fits, rfl⟩
    have profile := fits.profile_length
    have plan := fits.plan_length
    rw [if_neg (not_not.mpr fits.length), validate_eq_ok_iff.mpr fits.valid]
    exact if_neg (not_or.mpr ⟨by unfold maxIdentityBytes; omega, not_lt.mpr plan.2⟩)

/-! ### The decoder -/

section Decoder

variable {record : List UInt8}

theorem u16At_eq {i : Nat} (mem : i + 2 ≤ record.length) :
    u16At record i = .ok (u16Of ((record.drop i).take 2)) := by
  rw [u16At, slice_of_le mem]

theorem u32At_eq {i : Nat} (mem : i + 4 ≤ record.length) :
    u32At record i = .ok (u32Of ((record.drop i).take 4)) := by
  rw [u32At, slice_of_le mem]

theorem identity_eq_ok_iff {bytes : List UInt8} {text : String} :
    identity bytes = .ok text ↔ utf8 text = bytes := by
  rw [← fromUtf8_eq_some_iff, identity]
  cases fromUtf8 bytes with
  | none | some found => simp

/-- The words of a record's header, each at its place. -/
def header (record : List UInt8) : Header where
  schemaVersion := u16Of ((record.drop 4).take 2)
  flags := u16Of ((record.drop 6).take 2)
  profileLen := u16Of ((record.drop 8).take 2)
  fieldCount := u16Of ((record.drop 10).take 2)
  planLen := u16Of ((record.drop 12).take 2)
  payloadLen := u32Of ((record.drop 14).take 4)

def Header.bytes (h : Header) : List UInt8 :=
  magic ++ u16Bytes h.schemaVersion ++ u16Bytes h.flags ++ u16Bytes h.profileLen ++
    u16Bytes h.fieldCount ++ u16Bytes h.planLen ++ u32Bytes h.payloadLen

theorem header_bytes (long : headerSize ≤ record.length) (begins : record.take 4 = magic) :
    (header record).bytes ++ record.drop headerSize = record := by
  have width (i n : Nat) (mem : i + n ≤ headerSize) : ((record.drop i).take n).length = n := by
    rw [length_take, length_drop]
    omega
  unfold Header.bytes header
  simp only [u16Bytes_u16Of (width 4 2 (by decide)), u16Bytes_u16Of (width 6 2 (by decide)),
    u16Bytes_u16Of (width 8 2 (by decide)), u16Bytes_u16Of (width 10 2 (by decide)),
    u16Bytes_u16Of (width 12 2 (by decide)), u32Bytes_u32Of (width 14 4 (by decide)),
    ← begins, append_assoc]
  rw [show headerSize = 14 + 4 from rfl, take_append_slice, take_append_slice record 12 2,
    take_append_slice record 10 2, take_append_slice record 8 2, take_append_slice record 6 2,
    take_append_slice record 4 2]
  exact take_append_drop 4 record

theorem decodeRecord_eq (long : headerSize ≤ record.length) (begins : record.take 4 = magic) :
    decodeRecord record maxPayload =
      if (header record).flags &&& ~~~3 ≠ 0 then .error (.unknownFlags (header record).flags)
      else decodeIdentities record (header record) maxPayload := by
  have mem {i n : Nat} (within : i + n ≤ 18) : i + n ≤ record.length := within.trans long
  unfold decodeRecord
  rw [if_neg (not_or.mpr ⟨not_lt.mpr long, not_not.mpr begins⟩), u16At_eq (mem (by decide)),
    u16At_eq (mem (by decide)), u16At_eq (mem (by decide)), u16At_eq (mem (by decide)),
    u16At_eq (mem (by decide)), u32At_eq (mem (by decide))]
  rfl

/-- The two identities and the payload are what follows the header. -/
structure Carries (h : Header) (rest : List UInt8) (e : EventEnvelope) (payload : List UInt8) : Prop where
  schemaVersion : e.schemaVersion = h.schemaVersion
  fieldCount : e.fieldCount = h.fieldCount
  payloadLen : e.payloadLen = h.payloadLen
  isPartial : e.isPartial = decide (h.flags &&& 1 ≠ 0)
  isUnavailable : e.isUnavailable = decide (h.flags &&& 2 ≠ 0)
  profileLen : h.profileLen.toNat = (utf8 e.profileId).length
  planLen : h.planLen.toNat = (utf8 e.planHash).length
  follows : rest = utf8 e.profileId ++ utf8 e.planHash ++ payload

theorem carries_of_decodeIdentities {h : Header}
    (decoded : decodeIdentities record h maxPayload = .ok (e, payload)) :
    Carries h (record.drop headerSize) e payload ∧ e.Fits payload maxPayload := by
  rw [decodeIdentities, ite_error_eq_ok, ite_error_eq_ok] at decoded
  obtain ⟨-, -, decoded⟩ := decoded
  split at decoded
  · cases decoded
  rename_i identityEnd ends
  split at decoded
  · cases decoded
  rename_i stop stops
  obtain ⟨profileEnd, isProfileEnd, isIdentityEnd⟩ := Option.bind_eq_some_iff.mp ends
  obtain ⟨-, rfl⟩ := checkedAdd_eq_some_iff.mp isProfileEnd
  obtain ⟨-, rfl⟩ := checkedAdd_eq_some_iff.mp isIdentityEnd
  obtain ⟨-, rfl⟩ := checkedAdd_eq_some_iff.mp stops
  obtain ⟨sameLength, decoded⟩ := ite_error_eq_ok.mp decoded
  obtain ⟨profileId, profile, decoded⟩ := except_bind_eq_ok.mp decoded
  obtain ⟨planHash, plan, decoded⟩ := except_bind_eq_ok.mp decoded
  obtain ⟨_, ok, back⟩ := except_bind_eq_ok.mp decoded
  cases back
  rw [Nat.add_sub_cancel_left] at plan
  have isProfile := identity_eq_ok_iff.mp profile
  have isPlan := identity_eq_ok_iff.mp plan
  have profileLength := congrArg length isProfile
  have planLength := congrArg length isPlan
  rw [length_take, length_drop] at profileLength planLength
  refine ⟨⟨rfl, rfl, rfl, rfl, rfl, ?_, ?_, ?_⟩, ?_, validate_eq_ok_iff.mp ok⟩
  · show h.profileLen.toNat = (utf8 profileId).length
    omega
  · show h.planLen.toNat = (utf8 planHash).length
    omega
  · rw [isProfile, isPlan, append_assoc, take_append_slice, take_append_slice]
  · rw [length_drop]
    show h.payloadLen.toNat = _
    omega

theorem decodeIdentities_of_carries {h : Header} (long : headerSize ≤ record.length)
    (carries : Carries h (record.drop headerSize) e payload) (fits : e.Fits payload maxPayload) :
    decodeIdentities record h maxPayload = .ok (e, payload) := by
  have profile := fits.profile_length
  have plan := fits.plan_length
  have ceiling := fits.valid.underCeiling
  have length := congrArg length carries.follows
  rw [length_drop, length_append, length_append] at length
  have profileLen := carries.profileLen
  have planLen := carries.planLen
  have payloadLen : h.payloadLen.toNat = payload.length := by rw [← carries.payloadLen, fits.length]
  unfold maxIdentityBytes maxCapturePayloadBytes headerSize at *
  rw [fits.length] at ceiling
  have isProfile : (record.drop 18).take h.profileLen.toNat = utf8 e.profileId := by
    rw [carries.follows, append_assoc, take_left' profileLen.symm]
  have isPlan : (record.drop (18 + h.profileLen.toNat)).take h.planLen.toNat = utf8 e.planHash := by
    rw [← drop_drop, carries.follows, append_assoc, drop_left' profileLen.symm, take_left' planLen.symm]
  have isPayload : record.drop (18 + h.profileLen.toNat + h.planLen.toNat) = payload := by
    rw [Nat.add_assoc, ← drop_drop, carries.follows]
    exact drop_left' (by rw [length_append]; omega)
  unfold decodeIdentities maxIdentityBytes headerSize
  rw [if_neg (by omega), if_neg (by omega), checkedAdd_of_lt (by omega), Option.bind_some,
    checkedAdd_of_lt (by omega)]
  simp only []
  rw [checkedAdd_of_lt (by omega)]
  simp only []
  rw [if_neg (by omega)]
  have same : (⟨h.schemaVersion, e.profileId, e.planHash, h.fieldCount, h.payloadLen,
      decide (h.flags &&& 1 ≠ 0), decide (h.flags &&& 2 ≠ 0)⟩ : EventEnvelope) = e := by
    rw [← carries.schemaVersion, ← carries.fieldCount, ← carries.payloadLen, ← carries.isPartial,
      ← carries.isUnavailable]
  simp only [Nat.add_sub_cancel_left, isProfile, isPlan, identity_eq_ok_iff.mpr rfl, isPayload, bind,
    Except.bind, same, validate_eq_ok_iff.mpr fits.valid]
  rfl

theorem carries_frame (fits : e.Fits payload maxPayload) :
    Carries (header (e.frame payload)) ((e.frame payload).drop headerSize) e payload := by
  have profile := fits.profile_length
  have plan := fits.plan_length
  unfold maxIdentityBytes at plan
  have profileLen : (ofNat (utf8 e.profileId).length).toNat = (utf8 e.profileId).length :=
    toNat_ofNat_of_lt' (by show _ < 65536; omega)
  have planLen : (ofNat (utf8 e.planHash).length).toNat = (utf8 e.planHash).length :=
    toNat_ofNat_of_lt' (by show _ < 65536; omega)
  have flags : (header (e.frame payload)).flags = e.flags := u16Of_u16Bytes e.flags
  refine ⟨(u16Of_u16Bytes e.schemaVersion).symm, (u16Of_u16Bytes e.fieldCount).symm,
    (u32Of_u32Bytes e.payloadLen).symm, ?_, ?_, ?_, ?_, rfl⟩
  · rw [flags, EventEnvelope.flags]
    cases e.isPartial <;> cases e.isUnavailable <;> decide
  · rw [flags, EventEnvelope.flags]
    cases e.isPartial <;> cases e.isUnavailable <;> decide
  · exact (congrArg toNat (u16Of_u16Bytes _)).trans profileLen
  · exact (congrArg toNat (u16Of_u16Bytes _)).trans planLen

theorem decodeRecord_frame (fits : e.Fits payload maxPayload) :
    decodeRecord (e.frame payload) maxPayload = .ok (e, payload) := by
  have long : headerSize ≤ (e.frame payload).length := Nat.le_add_left 18 _
  have flags : (header (e.frame payload)).flags = e.flags := u16Of_u16Bytes e.flags
  rw [decodeRecord_eq long rfl, flags, if_neg (not_not.mpr e.flags_known)]
  exact decodeIdentities_of_carries long (carries_frame fits) fits

theorem frame_of_decodeRecord (decoded : decodeRecord record maxPayload = .ok (e, payload)) :
    e.Fits payload maxPayload ∧ e.frame payload = record := by
  by_cases short : record.length < headerSize ∨ record.take 4 ≠ magic
  · rw [decodeRecord, if_pos short] at decoded
    cases decoded
  obtain ⟨long, begins⟩ := not_or.mp short
  have long := not_lt.mp long
  have begins := not_not.mp begins
  rw [decodeRecord_eq long begins] at decoded
  obtain ⟨known, decoded⟩ := ite_error_eq_ok.mp decoded
  obtain ⟨carries, fits⟩ := carries_of_decodeIdentities decoded
  refine ⟨fits, ?_⟩
  have flags : e.flags = (header record).flags := by
    rw [EventEnvelope.flags, carries.isPartial, carries.isUnavailable]
    exact flags_of_known (not_not.mp known)
  have bytes := header_bytes long begins
  rw [carries.follows] at bytes
  calc e.frame payload
      = (header record).bytes ++ (utf8 e.profileId ++ utf8 e.planHash ++ payload) := by
        rw [frame, Header.bytes, carries.schemaVersion, carries.fieldCount, carries.payloadLen, flags,
          ← carries.profileLen, ← carries.planLen, UInt16.ofNat_toNat, UInt16.ofNat_toNat]
        simp
    _ = record := bytes

end Decoder

/-- **The decoder accepts exactly what the encoder writes**: an envelope and a payload are encoded to
a record exactly if the record is decoded to them, and two records are not decoded to the same. -/
theorem decode_iff_encode (maxPayload : Nat) :
    (∀ (e : EventEnvelope) (payload record : List UInt8),
      e.encodeRecord payload maxPayload = .ok record ↔
        decodeRecord record maxPayload = .ok (e, payload)) ∧
    (∀ record : List UInt8, (∃ found, decodeRecord record maxPayload = .ok found) ↔
      ∃ (e : EventEnvelope) (payload : List UInt8), e.encodeRecord payload maxPayload = .ok record) ∧
    (∀ (record other : List UInt8) (found : EventEnvelope × List UInt8),
      decodeRecord record maxPayload = .ok found → decodeRecord other maxPayload = .ok found →
        record = other) := by
  have agree (e : EventEnvelope) (payload record : List UInt8) :
      e.encodeRecord payload maxPayload = .ok record ↔
        decodeRecord record maxPayload = .ok (e, payload) := by
    rw [encodeRecord_eq_ok_iff]
    constructor
    · rintro ⟨fits, rfl⟩
      exact decodeRecord_frame fits
    · exact frame_of_decodeRecord
  refine ⟨agree, fun record => ?_, fun record other found one two => ?_⟩
  · constructor
    · rintro ⟨⟨e, payload⟩, decoded⟩
      exact ⟨e, payload, (agree e payload record).mpr decoded⟩
    · rintro ⟨e, payload, encoded⟩
      exact ⟨(e, payload), (agree e payload record).mp encoded⟩
  · exact (frame_of_decodeRecord one).2.symm.trans (frame_of_decodeRecord two).2

example : (EventEnvelope.new "rust" "sha256:plan" 1 8).encodeRecord [42, 0, 0, 0, 0, 0, 0, 0] 64 =
    .ok ([68, 82, 88, 49, 1, 0, 0, 0, 4, 0, 1, 0, 11, 0, 8, 0, 0, 0] ++ utf8 "rustsha256:plan" ++
      [42, 0, 0, 0, 0, 0, 0, 0]) := by decide

end EventEnvelope

end Detrix.Ebpf
