/-
This file asks what the two availability flags of the statistics say. The flag of
the video buffer is overwritten by every inbound video report, and the flag of the
round trip time by the selected candidate pair. So the flags tell what was reported
exactly when what is overwritten agrees with what overwrites it.
-/

import RemoteControl.Peer.StatisticsPasses

namespace RemoteControl.Peer

section

variable {Double : Type} [DoubleArithmetic Double]

/-- The availability flags tell what was reported, and neither they nor the sums depend on the
order of the reports, as long as the selected pair stays. -/
structure ReflectsReports (now : Int64) (reports : List (Option (MediaRTCStats Double))) :
    Prop where
  roundTripTime : (collectPeerConnectionStats now reports).roundTripTimeAvailable ↔
    (∃ report, some report ∈ reports ∧ report.ReportsRoundTripTime) ∨
      ∃ pair, selectedPair reports = some pair ∧ pair.MeasuresRoundTripTime
  videoBuffer : (collectPeerConnectionStats now reports).videoBufferAvailable ↔
    ∃ report, some report ∈ reports ∧ report.IsInboundVideo ∧ report.ReportsBuffer
  anyOrder : ∀ reports' : List (Option (MediaRTCStats Double)), reports'.Perm reports →
    selectedPair reports' = selectedPair reports →
      (collectPeerConnectionStats now reports').roundTripTimeAvailable =
          (collectPeerConnectionStats now reports).roundTripTimeAvailable ∧
        (collectPeerConnectionStats now reports').videoBufferAvailable =
          (collectPeerConnectionStats now reports).videoBufferAvailable ∧
        (collectPeerConnectionStats now reports').totals =
          (collectPeerConnectionStats now reports).totals

/-- What overwrites a flag agrees with what it overwrites: a selected pair measures a round trip
time unless none was reported, and the inbound video streams all tell of a buffer or none does. -/
structure OverwritesAgree (reports : List (Option (MediaRTCStats Double))) : Prop where
  roundTripTime : ∀ pair, selectedPair reports = some pair → pair.MeasuresRoundTripTime ∨
    ∀ report, some report ∈ reports → ¬ report.ReportsRoundTripTime
  videoBuffer : (∀ report, some report ∈ reports → report.IsInboundVideo →
      report.ReportsBuffer) ∨
    ∀ report, some report ∈ reports → report.IsInboundVideo → ¬ report.ReportsBuffer

/-! ### The flags and the sums -/

section

variable {now : Int64} {reports reports' : List (Option (MediaRTCStats Double))}

theorem roundTrip_applyPair (result : PeerConnectionStats Double)
    (candidates : Table ByteString CandidateInfo) (pair : MediaRTCStats Double) :
    (result.applyPair candidates pair).roundTripTimeAvailable ↔ pair.MeasuresRoundTripTime := by
  rw [PeerConnectionStats.applyPair, MediaRTCStats.MeasuresRoundTripTime, MediaRTCStats.Defines]
  cases pair.numericMember (bytes "currentRoundTripTime") with
  | some roundTripTime => exact iff_of_true rfl (Or.inl rfl)
  | none => exact (or_iff_right Bool.false_ne_true).symm

theorem videoBuffer_applyPair (result : PeerConnectionStats Double)
    (candidates : Table ByteString CandidateInfo) (pair : MediaRTCStats Double) :
    (result.applyPair candidates pair).videoBufferAvailable = result.videoBufferAvailable := by
  rw [PeerConnectionStats.applyPair]
  split <;> rfl

/-- The selected pair decides on the flag of the round trip time, if there is one. -/
theorem roundTrip_collect (now : Int64) (reports : List (Option (MediaRTCStats Double))) :
    (collectPeerConnectionStats now reports).roundTripTimeAvailable ↔
      (∃ pair, selectedPair reports = some pair ∧ pair.MeasuresRoundTripTime) ∨
        selectedPair reports = none ∧
          ∃ report, some report ∈ reports ∧ report.ReportsRoundTripTime := by
  rw [collectPeerConnectionStats]
  simp only [selectedPair_secondPass]
  cases selectedPair reports with
  | none => simp only [roundTrip_secondPass, reduceCtorEq, false_and, exists_false, false_or,
      true_and]
  | some pair => simp only [roundTrip_applyPair, Option.some.injEq, exists_eq_left', reduceCtorEq,
      false_and, or_false]

theorem videoBuffer_collect (now : Int64) (reports : List (Option (MediaRTCStats Double))) :
    (collectPeerConnectionStats now reports).videoBufferAvailable =
      (secondPass now reports).result.videoBufferAvailable := by
  rw [collectPeerConnectionStats]
  cases (secondPass now reports).selectedPair with
  | none => rfl
  | some pair => exact videoBuffer_applyPair _ _ pair

theorem totals_collect (now : Int64) (reports : List (Option (MediaRTCStats Double))) :
    (collectPeerConnectionStats now reports).totals = (secondPass now reports).result.totals := by
  rw [collectPeerConnectionStats]
  cases (secondPass now reports).selectedPair with
  | none => rfl
  | some pair => exact PeerConnectionStats.totals_applyPair _ pair _

/-- The flag of the round trip time depends on the order only through the selected pair. -/
theorem roundTrip_collect_perm (perm : reports'.Perm reports)
    (kept : selectedPair reports' = selectedPair reports) :
    (collectPeerConnectionStats now reports').roundTripTimeAvailable =
      (collectPeerConnectionStats now reports).roundTripTimeAvailable := by
  rw [Bool.eq_iff_iff, roundTrip_collect, roundTrip_collect, kept]
  simp only [perm.mem_iff]

/-- A flag that all inbound video reports agree on is the flag of the buffer. -/
theorem videoBuffer_collect_of_agree {flag : Bool}
    (agree : ∀ report, some report ∈ reports → report.IsInboundVideo →
      decide report.ReportsBuffer = flag)
    (present : flag = false ∨ ∃ report, some report ∈ reports ∧ report.IsInboundVideo) :
    (collectPeerConnectionStats now reports).videoBufferAvailable = flag := by
  rw [videoBuffer_collect, videoBuffer_secondPass]
  cases last : (reports.reduceOption.filter fun report => report.IsInboundVideo).getLast? with
  | none =>
    obtain rfl | ⟨report, among, video⟩ := present
    · rfl
    · rw [List.getLast?_eq_none_iff, List.filter_eq_nil_iff] at last
      refine absurd ?_ (last report (List.reduceOption_mem_iff.mpr among))
      exact decide_eq_true video
  | some report =>
    have among := List.mem_of_getLast? last
    rw [List.mem_filter, List.reduceOption_mem_iff, decide_eq_true_iff] at among
    exact agree report among.1 among.2

/-! ### Moving a report -/

omit [DoubleArithmetic Double] in
/-- Inbound reports do not matter for the selected pair. -/
theorem selectedPair_congr
    (same : (reports'.reduceOption.filter fun report => ¬ report.IsInbound) =
      reports.reduceOption.filter fun report => ¬ report.IsInbound) :
    selectedPair reports' = selectedPair reports := by
  have kept (chosen : MediaRTCStats Double → Bool)
      (outside : ∀ report, chosen report → ¬ report.IsInbound) :
      reports'.reduceOption.filter chosen = reports.reduceOption.filter chosen := by
    have narrowed (list : List (MediaRTCStats Double)) :
        list.filter chosen =
          (list.filter fun report => ¬ report.IsInbound).filter chosen := by
      rw [List.filter_filter]
      refine List.filter_congr fun report _ => ?_
      by_cases isChosen : chosen report
      · rw [isChosen, decide_eq_true (outside report isChosen)]
        rfl
      · rw [Bool.not_eq_true] at isChosen
        rw [isChosen]
        rfl
    rw [narrowed, same, ← narrowed]
  have id : selectedPairId reports' = selectedPairId reports := by
    rw [selectedPairId, selectedPairId, kept]
    intro report transport inbound
    rw [decide_eq_true_iff] at transport
    rcases inbound with inbound | inbound <;>
      exact absurd (transport.symm.trans inbound) (by decide)
  rw [selectedPair, selectedPair, bestPair, bestPair, id, kept]
  intro report scored inbound
  rw [decide_eq_true_iff] at scored
  exact inbound.not_isPair scored.1

/-- An inbound video report can be moved to the end, where it decides on the flag of the buffer. -/
theorem exists_perm_videoBuffer (now : Int64) {report : MediaRTCStats Double}
    (among : some report ∈ reports) (video : report.IsInboundVideo) :
    ∃ reports' : List (Option (MediaRTCStats Double)), reports'.Perm reports ∧
      selectedPair reports' = selectedPair reports ∧
        (collectPeerConnectionStats now reports').videoBufferAvailable =
          decide report.ReportsBuffer := by
  obtain ⟨before, after, rfl⟩ := List.append_of_mem among
  refine ⟨before ++ after ++ [some report], ?_, ?_, ?_⟩
  · rw [List.append_assoc]
    exact (List.perm_append_singleton (some report) after).append_left before
  · refine selectedPair_congr ?_
    simp only [List.reduceOption_append, List.reduceOption_cons_of_some, List.reduceOption_nil,
      List.filter_append, List.filter_cons, video.1, not_true_eq_false, decide_false,
      Bool.false_eq_true, if_false, List.filter_nil, List.append_nil]
  · rw [videoBuffer_collect, videoBuffer_secondPass, List.reduceOption_append,
      List.filter_append, List.reduceOption_cons_of_some, List.reduceOption_nil,
      List.filter_singleton, decide_eq_true video, cond_true, List.getLast?_concat]
    rfl

/-! ### When the flags tell what was reported -/

theorem roundTrip_reflects_iff (now : Int64) (reports : List (Option (MediaRTCStats Double))) :
    ((collectPeerConnectionStats now reports).roundTripTimeAvailable ↔
        (∃ report, some report ∈ reports ∧ report.ReportsRoundTripTime) ∨
          ∃ pair, selectedPair reports = some pair ∧ pair.MeasuresRoundTripTime) ↔
      ∀ pair, selectedPair reports = some pair → pair.MeasuresRoundTripTime ∨
        ∀ report, some report ∈ reports → ¬ report.ReportsRoundTripTime := by
  rw [roundTrip_collect]
  constructor
  · intro reflects pair selected
    by_cases measures : pair.MeasuresRoundTripTime
    · exact Or.inl measures
    · refine Or.inr fun report among reported => ?_
      rcases reflects.mpr (Or.inl ⟨report, among, reported⟩) with decided | ⟨unselected, -⟩
      · obtain ⟨pair', selected', measures'⟩ := decided
        rw [selected, Option.some.injEq] at selected'
        exact measures (selected' ▸ measures')
      · rw [selected] at unselected
        exact Option.some_ne_none pair unselected
  · intro agrees
    constructor
    · rintro (measured | ⟨-, reported⟩)
      · exact Or.inr measured
      · exact Or.inl reported
    · rintro (⟨report, among, reported⟩ | measured)
      · cases selected : selectedPair reports with
        | none => exact Or.inr ⟨rfl, report, among, reported⟩
        | some pair =>
          refine Or.inl ⟨pair, rfl, (agrees pair selected).resolve_right fun unreported => ?_⟩
          exact unreported report among reported
      · exact Or.inl measured

/-- Where the inbound video reports agree, their flag is the same in every order. -/
theorem videoBuffer_reflects (now : Int64)
    (agrees : (∀ report, some report ∈ reports → report.IsInboundVideo → report.ReportsBuffer) ∨
      ∀ report, some report ∈ reports → report.IsInboundVideo → ¬ report.ReportsBuffer)
    (perm : reports'.Perm reports) :
    (collectPeerConnectionStats now reports').videoBufferAvailable ↔
      ∃ report, some report ∈ reports ∧ report.IsInboundVideo ∧ report.ReportsBuffer := by
  by_cases telling : ∃ report, some report ∈ reports ∧ report.IsInboundVideo ∧ report.ReportsBuffer
  · refine iff_of_true ?_ telling
    obtain ⟨report, among, video, tells⟩ := telling
    have all := agrees.resolve_right fun none => none report among video tells
    refine videoBuffer_collect_of_agree (fun other amongOther videoOther => ?_)
      (Or.inr ⟨report, perm.mem_iff.mpr among, video⟩)
    exact decide_eq_true (all other (perm.mem_iff.mp amongOther) videoOther)
  · refine iff_of_false (Bool.eq_false_iff.mp ?_) telling
    refine videoBuffer_collect_of_agree (fun other amongOther videoOther => ?_) (Or.inl rfl)
    exact decide_eq_false fun tells =>
      telling ⟨other, perm.mem_iff.mp amongOther, videoOther, tells⟩

/-- A flag of the buffer that no order changes needs inbound video reports that agree. -/
theorem agree_of_videoBuffer_perm
    (same : ∀ reports' : List (Option (MediaRTCStats Double)), reports'.Perm reports →
      selectedPair reports' = selectedPair reports →
        (collectPeerConnectionStats now reports').videoBufferAvailable =
          (collectPeerConnectionStats now reports).videoBufferAvailable) :
    (∀ report, some report ∈ reports → report.IsInboundVideo → report.ReportsBuffer) ∨
      ∀ report, some report ∈ reports → report.IsInboundVideo → ¬ report.ReportsBuffer := by
  by_contra differ
  push Not at differ
  obtain ⟨⟨silent, amongSilent, videoSilent, isSilent⟩, telling, amongTelling, videoTelling,
    isTelling⟩ := differ
  -- either of the two reports can come last
  obtain ⟨first, permFirst, keptFirst, flagFirst⟩ :=
    exists_perm_videoBuffer now amongSilent videoSilent
  obtain ⟨second, permSecond, keptSecond, flagSecond⟩ :=
    exists_perm_videoBuffer now amongTelling videoTelling
  have unset := same first permFirst keptFirst
  have set := same second permSecond keptSecond
  rw [flagFirst, decide_eq_false isSilent] at unset
  rw [flagSecond, decide_eq_true isTelling] at set
  exact Bool.noConfusion (unset.trans set.symm)

/-- The flags tell what was reported exactly when what overwrites a flag agrees with what it
overwrites. -/
theorem availability_reflects_reports_iff (now : Int64)
    (reports : List (Option (MediaRTCStats Double))) :
    ReflectsReports now reports ↔ OverwritesAgree reports := by
  constructor
  · intro reflects
    refine ⟨(roundTrip_reflects_iff now reports).mp reflects.roundTripTime, ?_⟩
    exact agree_of_videoBuffer_perm fun reports' perm kept =>
      (reflects.anyOrder reports' perm kept).2.1
  · intro agrees
    have buffer {reports' : List (Option (MediaRTCStats Double))} (perm : reports'.Perm reports) :=
      videoBuffer_reflects now agrees.videoBuffer perm
    refine ⟨(roundTrip_reflects_iff now reports).mpr agrees.roundTripTime,
      buffer (List.Perm.refl _), fun reports' perm kept =>
        ⟨roundTrip_collect_perm perm kept, ?_, ?_⟩⟩
    · exact Bool.eq_iff_iff.mpr ((buffer perm).trans (buffer (List.Perm.refl _)).symm)
    · rw [totals_collect, totals_collect, totals_secondPass_perm now perm]

end

end

/-! ### Reports that are overwritten -/

/-- Exact arithmetic, which is that of `double` where nothing has to be rounded. -/
instance : DoubleArithmetic Rat where
  ofInt value := value
  add := (· + ·)
  mul := (· * ·)
  greater first second := second < first
  lessEqual first second := first ≤ second
  toInt32 value := Int32.ofInt (value.num.tdiv value.den)
  toInt64 value := Int64.ofInt (value.num.tdiv value.den)
  toUInt64 value := UInt64.ofNat (value.num.tdiv value.den).toNat
  zero_lessEqual_zero := by decide

/-- The other peer measured a round trip time, the selected pair has none yet. -/
def unmeasuredPair : List (Option (MediaRTCStats Rat)) :=
  [some ⟨bytes "R1", bytes "remote-inbound-rtp",
      [some ⟨bytes "roundTripTime", true, .double (1 / 4)⟩]⟩,
    some ⟨bytes "CP1", bytes "candidate-pair",
      [some ⟨bytes "nominated", true, .bool true⟩,
        some ⟨bytes "state", true, .string (bytes "succeeded")⟩,
        some ⟨bytes "currentRoundTripTime", false, .double 0⟩]⟩]

/-- A video stream with a buffer, and one on which nothing has arrived. -/
def idleStream : List (Option (MediaRTCStats Rat)) :=
  [some ⟨bytes "V1", bytes "inbound-rtp",
      [some ⟨bytes "kind", true, .string (bytes "video")⟩,
        some ⟨bytes "jitterBufferDelay", true, .double (3 / 2)⟩,
        some ⟨bytes "jitterBufferEmittedCount", true, .uint64 60⟩]⟩,
    some ⟨bytes "V2", bytes "inbound-rtp",
      [some ⟨bytes "kind", true, .string (bytes "video")⟩]⟩]

/-- The round trip time and the buffer were reported, and the flags say that they were not. -/
theorem reports_overwritten :
    ¬ ReflectsReports 0 unmeasuredPair ∧ ¬ ReflectsReports 0 idleStream := by
  constructor
  · intro reflects
    have unset : (collectPeerConnectionStats 0 unmeasuredPair).roundTripTimeAvailable = false := by
      decide
    have set := reflects.roundTripTime.mpr
      (Or.inl ⟨_, List.mem_cons_self, by decide⟩)
    exact Bool.noConfusion (unset.symm.trans set)
  · intro reflects
    have unset : (collectPeerConnectionStats 0 idleStream).videoBufferAvailable = false := by
      decide
    have set := reflects.videoBuffer.mpr ⟨_, List.mem_cons_self, by decide, by decide⟩
    exact Bool.noConfusion (unset.symm.trans set)

end RemoteControl.Peer
