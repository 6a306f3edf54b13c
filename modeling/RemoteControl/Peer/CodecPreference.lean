/-
This file models `PreferCodec`, which moves the codecs of one MIME type to the
front of the list a transceiver negotiates with. Two passes with complementary
conditions split the capabilities, so that none is lost or doubled, and H264
codecs are sorted stably by a score that is read from the text of their format.
Letters are compared as in the locale "C".
-/

import Mathlib.Data.List.ReduceOption
import RemoteControl.Library.Ranking
import RemoteControl.Signaling.Json

namespace RemoteControl.Peer

open ListSearch Ranking

/-! ### Codecs -/

/-- `RTCMediaType`. -/
inductive RTCMediaType where
  | audio
  | video
  | data
  | unsupported
  deriving DecidableEq

/-- `RTCRtpCodecCapability`, and which object it is. -/
structure RTCRtpCodecCapability where
  object : Nat
  mimeType : ByteString
  sdpFmtpLine : ByteString
  deriving DecidableEq

/-- `RTCRtpTransceiver`, and which object it is. -/
structure RTCRtpTransceiver where
  object : Nat
  mediaType : RTCMediaType
  deriving DecidableEq

/-- `std::tolower`. -/
def toLower (byte : Byte) : Byte := if 65 ≤ byte ∧ byte ≤ 90 then byte + 32 else byte

/-- `c_str`: a C string ends at its first null. -/
def cString (text : ByteString) : ByteString := text.takeWhile fun byte => byte ≠ 0

/-- `_stricmp` finds no difference. -/
def equalIgnoringCase (first second : ByteString) : Bool :=
  (cString first).map toLower = (cString second).map toLower

/-- The format line of a codec in lower case. -/
def RTCRtpCodecCapability.fmtp (codec : RTCRtpCodecCapability) : ByteString :=
  codec.sdpFmtpLine.map toLower

/-- `h264_score`; the lower one is preferred. -/
def h264Score : Option RTCRtpCodecCapability → Int
  | none => 1000
  | some codec =>
    let score := if (find codec.fmtp (bytes "packetization-mode=1") 0).isSome then 0 else 100
    match find codec.fmtp (bytes "profile-level-id=") 0 with
    | none => score + 40
    | some profile =>
      let idc := (codec.fmtp.drop (profile + 17)).take 2
      if idc = bytes "64" then score
      else if idc = bytes "4d" then score + 10
      else if idc = bytes "42" then score + 20
      else score + 30

/-! ### PreferCodec -/

/-- The condition of the first pass. -/
def isPreferred (mimeType : ByteString) : Option RTCRtpCodecCapability → Bool
  | some codec => equalIgnoringCase codec.mimeType mimeType
  | none => false

/-- The condition of the second pass. -/
def isOther (mimeType : ByteString) : Option RTCRtpCodecCapability → Bool
  | some codec => !equalIgnoringCase codec.mimeType mimeType
  | none => true

/-- The list that is passed to the transceivers, if a codec is of the preferred type. -/
def orderCodecs (mimeType : ByteString) (codecs : List (Option RTCRtpCodecCapability)) :
    Option (List (Option RTCRtpCodecCapability)) :=
  let preferred := codecs.filter (isPreferred mimeType)
  if preferred = [] then none
  else
    let ordered :=
      if equalIgnoringCase mimeType (bytes "video/H264") then
        stableSort (fun left right => h264Score left < h264Score right) preferred
      else preferred
    some (ordered ++ codecs.filter (isOther mimeType))

/-- `PreferCodec`: the calls of `SetCodecPreferences`, from the transceivers of the peer connection
and the capabilities that the factory tells for a type of media. -/
def preferCodec (peerConnection : Option (List (Option RTCRtpTransceiver)))
    (factory : Option (RTCMediaType → Option (List (Option RTCRtpCodecCapability))))
    (mediaType : RTCMediaType) (mimeType : Option ByteString) :
    List (RTCRtpTransceiver × List (Option RTCRtpCodecCapability)) :=
  match peerConnection, mimeType with
  | some transceivers, some mimeType =>
    match factory.bind fun capabilities => capabilities mediaType with
    | some codecs =>
      match orderCodecs mimeType codecs with
      | some codecPreferences =>
        (transceivers.reduceOption.filter fun transceiver =>
          transceiver.mediaType = mediaType).map fun transceiver => (transceiver, codecPreferences)
      | none => []
    | none => []
  | _, _ => []

/-! ### The score -/

namespace RTCRtpCodecCapability

variable {codec : RTCRtpCodecCapability}

/-- The format line asks for packetization mode 1. -/
def HasPacketizationMode1 (codec : RTCRtpCodecCapability) : Prop :=
  bytes "packetization-mode=1" <:+: codec.fmtp

/-- The profile that the format line names is High, Main or Baseline. -/
def HasKnownProfile (codec : RTCRtpCodecCapability) : Prop :=
  ∃ rest, afterFirst (bytes "profile-level-id=") codec.fmtp = some rest ∧
    (bytes "64" <+: rest ∨ bytes "4d" <+: rest ∨ bytes "42" <+: rest)

theorem isSome_find_packetizationMode1 :
    (find codec.fmtp (bytes "packetization-mode=1") 0).isSome ↔ codec.HasPacketizationMode1 := by
  rw [find_zero, isSome_indexOf (by decide), HasPacketizationMode1]

/-- Without packetization mode 1 no profile makes up for it. -/
theorem le_h264Score (other : ¬ codec.HasPacketizationMode1) : 100 ≤ h264Score (some codec) := by
  rw [← isSome_find_packetizationMode1] at other
  simp only [h264Score, if_neg other]
  split
  · decide
  · split_ifs <;> decide

theorem h264Score_le (mode1 : codec.HasPacketizationMode1) (known : codec.HasKnownProfile) :
    h264Score (some codec) ≤ 20 := by
  obtain ⟨rest, named, known⟩ := known
  rw [← isSome_find_packetizationMode1] at mode1
  have behind := find_map_drop codec.fmtp (bytes "profile-level-id=") 0
  rw [List.drop_zero, named] at behind
  obtain ⟨profile, found, dropped⟩ := Option.map_eq_some_iff.mp behind
  change codec.fmtp.drop (profile + 17) = rest at dropped
  simp only [h264Score, if_pos mode1, found, dropped]
  rcases known with high | main | baseline
  · have idc : rest.take 2 = bytes "64" := (List.prefix_iff_eq_take.mp high).symm
    rw [idc]
    decide
  · have idc : rest.take 2 = bytes "4d" := (List.prefix_iff_eq_take.mp main).symm
    rw [idc]
    decide
  · have idc : rest.take 2 = bytes "42" := (List.prefix_iff_eq_take.mp baseline).symm
    rw [idc]
    decide

end RTCRtpCodecCapability

/-! ### The order -/

theorem isOther_eq (mimeType : ByteString) (codec : Option RTCRtpCodecCapability) :
    isOther mimeType codec = !isPreferred mimeType codec := by
  cases codec <;> rfl

/-- A list of preferences holds the capabilities, those of the preferred type first. These are in
the order of their scores if the type is H264, and in the order they had otherwise and within a
score; the others are in the order they had. -/
structure PreferenceOrder (mimeType : ByteString)
    (codecs passed : List (Option RTCRtpCodecCapability)) : Prop where
  perm : passed.Perm codecs
  preferredFirst : passed = passed.filter (isPreferred mimeType) ++
    passed.filter fun codec => !isPreferred mimeType codec
  othersInOrder : (passed.filter fun codec => !isPreferred mimeType codec) =
    codecs.filter fun codec => !isPreferred mimeType codec
  equalsInOrder : ∀ score,
    (passed.filter fun codec => h264Score codec = score && isPreferred mimeType codec) =
      codecs.filter fun codec => h264Score codec = score && isPreferred mimeType codec
  sorted : equalIgnoringCase mimeType (bytes "video/H264") →
    (passed.filter (isPreferred mimeType)).Pairwise
      fun first second => h264Score first ≤ h264Score second
  unsorted : ¬ equalIgnoringCase mimeType (bytes "video/H264") →
    passed.filter (isPreferred mimeType) = codecs.filter (isPreferred mimeType)

section

variable {mimeType : ByteString} {codecs : List (Option RTCRtpCodecCapability)}

/-- What the first pass and the sort leave behind decides the whole order. -/
theorem preferenceOrder_append {ordered : List (Option RTCRtpCodecCapability)}
    (perm : ordered.Perm (codecs.filter (isPreferred mimeType)))
    (stable : ∀ score, (ordered.filter fun codec => h264Score codec = score) =
      (codecs.filter (isPreferred mimeType)).filter fun codec => h264Score codec = score)
    (sorted : equalIgnoringCase mimeType (bytes "video/H264") →
      ordered.Pairwise fun first second => h264Score first ≤ h264Score second)
    (unsorted : ¬ equalIgnoringCase mimeType (bytes "video/H264") →
      ordered = codecs.filter (isPreferred mimeType)) :
    PreferenceOrder mimeType codecs (ordered ++ codecs.filter (isOther mimeType)) := by
  have complement : isOther mimeType = fun codec => !isPreferred mimeType codec :=
    funext (isOther_eq mimeType)
  have inside : ∀ codec ∈ ordered, isPreferred mimeType codec := fun codec among =>
    (List.mem_filter.mp (perm.mem_iff.mp among)).2
  have preferred : (ordered ++ codecs.filter (isOther mimeType)).filter (isPreferred mimeType) =
      ordered := by
    rw [List.filter_append, List.filter_eq_self.mpr inside, complement, List.filter_filter]
    simp
  have others : ((ordered ++ codecs.filter (isOther mimeType)).filter
      fun codec => !isPreferred mimeType codec) =
        codecs.filter fun codec => !isPreferred mimeType codec := by
    have none : (ordered.filter fun codec => !isPreferred mimeType codec) = [] :=
      List.filter_eq_nil_iff.mpr fun codec among => by simp [inside codec among]
    rw [List.filter_append, none, List.nil_append, complement, List.filter_filter]
    simp only [Bool.and_self]
  refine ⟨?_, ?_, others, fun score => ?_, ?_, ?_⟩
  · rw [complement]
    exact (perm.append_right _).trans (List.filter_append_perm _ codecs)
  · rw [preferred, others, complement]
  · rw [← List.filter_filter, preferred, stable, List.filter_filter]
  · rw [preferred]
    exact sorted
  · rw [preferred]
    exact unsorted

theorem orderCodecs_of_preferred (present : ∃ codec ∈ codecs, isPreferred mimeType codec) :
    ∃ passed, orderCodecs mimeType codecs = some passed ∧
      PreferenceOrder mimeType codecs passed := by
  have found : codecs.filter (isPreferred mimeType) ≠ [] := by
    obtain ⟨codec, among, preferred⟩ := present
    exact List.ne_nil_of_mem (List.mem_filter.mpr ⟨among, preferred⟩)
  refine ⟨_, if_neg found, ?_⟩
  by_cases h264 : equalIgnoringCase mimeType (bytes "video/H264")
  · rw [if_pos h264]
    exact preferenceOrder_append (perm_stableSort _ _) (filter_stableSort h264Score _)
      (fun _ => pairwise_stableSort h264Score _) fun other => absurd h264 other
  · rw [if_neg h264]
    exact preferenceOrder_append (List.Perm.refl _) (fun _ => rfl)
      (fun isH264 => absurd isH264 h264) fun _ => rfl

theorem orderCodecs_of_not_preferred (absent : ∀ codec ∈ codecs, ¬ isPreferred mimeType codec) :
    orderCodecs mimeType codecs = none :=
  if_pos (List.filter_eq_nil_iff.mpr absent)

end

/-- The transceivers of the type of media are passed the capabilities in the preferred order, or
nothing if no codec is of the preferred type; among H264 codecs, packetization mode 1 with a known
profile comes before every other packetization mode. -/
theorem codec_preference_order (transceivers : List (Option RTCRtpTransceiver))
    (capabilities : RTCMediaType → Option (List (Option RTCRtpCodecCapability)))
    (mediaType : RTCMediaType) (mimeType : ByteString)
    (codecs : List (Option RTCRtpCodecCapability)) (told : capabilities mediaType = some codecs) :
    ((∃ codec ∈ codecs, isPreferred mimeType codec) →
      ∃ passed, PreferenceOrder mimeType codecs passed ∧
        preferCodec (some transceivers) (some capabilities) mediaType (some mimeType) =
          (transceivers.reduceOption.filter fun transceiver =>
            transceiver.mediaType = mediaType).map fun transceiver => (transceiver, passed)) ∧
    ((∀ codec ∈ codecs, ¬ isPreferred mimeType codec) →
      preferCodec (some transceivers) (some capabilities) mediaType (some mimeType) = []) ∧
    ∀ better worse : RTCRtpCodecCapability, better.HasPacketizationMode1 →
      better.HasKnownProfile → ¬ worse.HasPacketizationMode1 →
        h264Score (some better) < h264Score (some worse) := by
  refine ⟨fun present => ?_, fun absent => ?_, fun better worse mode1 known other => ?_⟩
  · obtain ⟨passed, ordered, order⟩ := orderCodecs_of_preferred present
    refine ⟨passed, order, ?_⟩
    simp only [preferCodec, Option.bind_some, told, ordered]
  · simp only [preferCodec, Option.bind_some, told, orderCodecs_of_not_preferred absent]
  · have low := RTCRtpCodecCapability.h264Score_le mode1 known
    have high := RTCRtpCodecCapability.le_h264Score other
    omega

/-- Capabilities of both kinds, with one that is null. -/
def offeredCodecs : List (Option RTCRtpCodecCapability) :=
  [some ⟨0, bytes "video/VP8", []⟩,
    some ⟨1, bytes "video/H264", bytes "packetization-mode=0;profile-level-id=42e01f"⟩,
    none,
    some ⟨2, bytes "video/H264", bytes "packetization-mode=1;profile-level-id=4D001F"⟩,
    some ⟨3, bytes "video/rtx", bytes "apt=96"⟩,
    some ⟨4, bytes "video/H264", bytes "packetization-mode=1;profile-level-id=64001f"⟩]

theorem codec_preference_order_offered :
    ∃ passed, PreferenceOrder (bytes "video/h264") offeredCodecs passed ∧
      preferCodec (some [some ⟨0, .audio⟩, none, some ⟨1, .video⟩])
        (some fun _ => some offeredCodecs) .video (some (bytes "video/h264")) =
          [(⟨1, .video⟩, passed)] :=
  (codec_preference_order [some ⟨0, .audio⟩, none, some ⟨1, .video⟩]
    (fun _ => some offeredCodecs) .video (bytes "video/h264") offeredCodecs rfl).1
      ⟨some ⟨1, bytes "video/H264", bytes "packetization-mode=0;profile-level-id=42e01f"⟩,
        by decide, by decide⟩

example : (orderCodecs (bytes "video/h264") offeredCodecs).map
    (List.map (Option.map RTCRtpCodecCapability.object)) =
      some [some 4, some 2, some 1, some 0, none, some 3] := by
  decide

end RemoteControl.Peer
