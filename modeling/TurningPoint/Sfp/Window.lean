import TurningPoint.Sfp.LossyLine

namespace TurningPoint

def Frame.isNak (frame : Frame) : Bool := frame.type == .nak

abbrev Frame.nak (seq : SeqNum) : Frame := ⟨.nak, seq, []⟩

theorem Peer.receive_nak {p : Peer} (hstate : p.connectState = .connected) (seq : SeqNum) :
    p.receive (.nak seq) = if seq = p.txSeq then p else p.resendFrom seq := by
  rw [receive, if_pos (Frame.fits_control _ _), handle, handleNAK, if_pos hstate]

theorem Frame.not_isNak {frame : Frame} (huser : frame.isUser = true) : ¬ frame.isNak = true := by
  rcases frame with ⟨type, seq, payload⟩
  cases type <;> simp_all [Frame.isUser, Frame.isNak]

theorem Peer.resendFrom_naks (p : Peer) (seq : SeqNum) :
    (p.resendFrom seq).line.filter Frame.isNak = p.line.filter Frame.isNak := by
  have hnone : ∀ frame ∈ numbered .rtx seq (p.resendFrom seq).history, ¬ frame.isNak = true := by
    intro frame hmem
    simp [Frame.isNak, (mem_numbered frame hmem).1]
  rw [Peer.resendFrom, Peer.resend_eq] at hnone ⊢
  rw [List.filter_append, List.filter_eq_nil_iff.mpr hnone, List.append_nil]

/-- The other end turns down nothing that it needs: `n` packets have been sent, it waits for the one
at `e`, and the frames on the line either bring all the rest or make it ask for them. -/
def Brings (n : Nat) : Nat → List (Frame × Nat) → Prop
  | e, [] => e = n
  | e, t :: live => if t.2 = e then Brings n (e + 1) live else t.1.type = .usr ∨ Brings n e live

namespace Brings

variable {n e : Nat} {live : List (Frame × Nat)}

theorem write (n e : Nat) (live : List (Frame × Nat)) (seq : SeqNum) (packet : List UInt8) :
    Brings (n + 1) e (live ++ [(⟨.usr, seq, packet⟩, n)]) := by
  induction live generalizing e with
  | nil =>
    rw [List.nil_append, Brings]
    split
    next heq => exact congrArg (· + 1) heq.symm
    next => exact .inl rfl
  | cons t live ih =>
    rw [List.cons_append, Brings]
    split
    next => exact ih (e + 1)
    next => exact .inr (ih e)

theorem resent {type : SFPframetype} {seq : SeqNum} (payloads : List (List UInt8)) {i : Nat}
    (hi : i ≤ e) (he : e ≤ n) (hn : i + payloads.length = n) :
    Brings n e ((numbered type seq payloads).zipIdx i) := by
  induction payloads generalizing i e seq with
  | nil =>
    rw [List.length_nil] at hn
    exact (by omega : e = n)
  | cons payload payloads ih =>
    rw [List.length_cons] at hn
    rw [numbered, List.zipIdx_cons, Brings]
    split
    next heq => exact ih (by omega) (by omega) (by omega)
    next hne => exact .inr (ih (Nat.lt_of_le_of_ne hi hne) he (by omega))

theorem resend {type : SFPframetype} {seq : SeqNum} {payloads : List (List UInt8)} {i : Nat}
    (hi : i ≤ e) (he : e ≤ n) (hn : i + payloads.length = n) (hlt : ∀ t ∈ live, t.2 < n) :
    Brings n e (live ++ (numbered type seq payloads).zipIdx i) := by
  induction live generalizing e with
  | nil => exact resent payloads hi he hn
  | cons t live ih =>
    obtain ⟨hhead, hlt⟩ := List.forall_mem_cons.mp hlt
    rw [List.cons_append, Brings]
    split
    next heq => exact ih (by omega) (by omega) hlt
    next => exact .inr (ih hi he hlt)

theorem all (hlt : ∀ t ∈ live, t.2 < n) : Brings n n live := by
  induction live with
  | nil => rfl
  | cons t live ih =>
    obtain ⟨hhead, hlt⟩ := List.forall_mem_cons.mp hlt
    rw [Brings, if_neg hhead.ne]
    exact .inr (ih hlt)

end Brings

/-- From `x` to `y`, packets of `log`, none of which has been given up: what `y` has not delivered, or
has asked for in one of the `naks` on its line, is in the history. -/
structure Window (x y : Peer) (log : List (List UInt8)) (live : List (Frame × Nat))
    (naks : List Nat) : Prop extends GoBackN x y log 0 y.delivered.length [] live where
  nak_line : y.line.filter Frame.isNak = naks.map fun i : Nat => Frame.nak i
  delivered_ge : log.length ≤ y.delivered.length + x.history.length
  nak_ge : ∀ i ∈ naks, log.length ≤ i + x.history.length
  nak_le : ∀ i ∈ naks, i ≤ y.delivered.length
  nak_sorted : naks.Pairwise (· ≤ ·)
  fits : ∀ payload ∈ log, payload.length + sfpCrcSize ≤ sfpConfigMaxPacketSize

def Pending (n e : Nat) (live : List (Frame × Nat)) (naks : List Nat) : Prop :=
  naks ≠ [] ∨ Brings n e live

namespace Window

variable {x y x' y' : Peer} {log : List (List UInt8)} {live : List (Frame × Nat)} {naks : List Nat}

theorem delivered_eq (h : Window x y log live naks) :
    y.delivered = log.take y.delivered.length := by
  refine h.delivered.eq_of_length ?_
  rw [List.length_take, Nat.min_eq_left h.le_length]

theorem congr (h : Window x y log live naks)
    (hline : x'.line.filter Frame.isUser = x.line.filter Frame.isUser)
    (hhistory : x'.history = x.history) (htxSeq : x'.txSeq = x.txSeq) (hrxSeq : y'.rxSeq = y.rxSeq)
    (hdelivered : y'.delivered = y.delivered)
    (hnaks : y'.line.filter Frame.isNak = y.line.filter Frame.isNak) :
    Window x' y' log live naks where
  line := hline.trans h.line
  history := hhistory ▸ h.history
  capacity := hhistory ▸ h.capacity
  txSeq := htxSeq.trans h.txSeq
  rxSeq := by rw [hrxSeq, hdelivered, h.rxSeq]
  le_length := hdelivered ▸ h.le_length
  dead_ne := by simp
  seq_eq := h.seq_eq
  payload_eq := h.payload_eq
  trailing := hdelivered ▸ h.trailing
  delivered := by rw [hdelivered]; exact h.delivered
  nak_line := hnaks.trans h.nak_line
  delivered_ge := by rw [hdelivered, hhistory]; exact h.delivered_ge
  nak_ge := hhistory ▸ h.nak_ge
  nak_le := hdelivered ▸ h.nak_le
  nak_sorted := h.nak_sorted
  fits := h.fits

theorem near {i j : Nat} (hij : i ≤ j + sfpConfigHistoryCapacity)
    (hji : j ≤ i + sfpConfigHistoryCapacity) : (i : SeqNum) = j ↔ i = j := by
  refine ⟨fun h => ?_, congrArg _⟩
  have hmod : i % 64 = j % 64 := (ZMod.natCast_eq_natCast_iff i j 64).mp h
  have hcapacity : sfpConfigHistoryCapacity = 8 := rfl
  omega

theorem seq_eq_iff (h : Window x y log live naks) {t : Frame × Nat} (ht : t ∈ live) :
    t.1.seq = y.rxSeq ↔ t.2 = y.delivered.length := by
  have hlt := h.index_lt t.2 (List.mem_map_of_mem ht)
  have hge := h.delivered_ge
  have hcapacity := h.capacity
  have hhead := h.trailing.head t.2 (List.mem_map_of_mem ht)
  rw [h.seq_eq t ht, h.rxSeq, add_zero, add_zero]
  exact near (by omega) hhead

theorem frame_fits (h : Window x y log live naks) {t : Frame × Nat} (ht : t ∈ live) :
    t.1.Fits :=
  h.fits _ (List.mem_of_getElem? (h.payload_eq t ht))

theorem live_cons (h : Window x y log live naks) {frame : Frame} {frames : List Frame}
    (hline : x.line = frame :: frames) (huser : frame.isUser = true) :
    ∃ i live', live = (frame, i) :: live' ∧ frames.filter Frame.isUser = live'.map Prod.fst := by
  have hfilter := h.line
  rw [hline, List.filter_cons_of_pos huser, List.nil_append] at hfilter
  rcases live with _ | ⟨⟨frame', i⟩, live'⟩
  · cases hfilter
  · obtain ⟨rfl, hframes⟩ := List.cons_eq_cons.mp hfilter
    exact ⟨i, live', rfl, hframes⟩

theorem drop {frame : Frame} {i : Nat} (h : Window x y log ((frame, i) :: live) naks)
    {frames : List Frame} (hframes : frames.filter Frame.isUser = live.map Prod.fst) :
    Window { x with line := frames } y log live naks :=
  { h with
    line := hframes
    seq_eq := fun t ht => h.seq_eq t (List.mem_cons_of_mem _ ht)
    payload_eq := fun t ht => h.payload_eq t (List.mem_cons_of_mem _ ht)
    trailing := h.trailing.sublist (List.sublist_cons_self ..) }

theorem accept {frame : Frame} (h : Window x y log ((frame, y.delivered.length) :: live) naks)
    {frames : List Frame} (hframes : frames.filter Frame.isUser = live.map Prod.fst) :
    Window { x with line := frames }
      { y with delivered := y.delivered ++ [frame.payload], rxSeq := y.rxSeq + 1 } log live naks := by
  have hlen : (y.delivered ++ [frame.payload]).length = y.delivered.length + 1 := by simp
  have hpayload : log[y.delivered.length]? = some frame.payload :=
    h.payload_eq _ List.mem_cons_self
  have hge := h.delivered_ge
  have htrailing := h.trailing
  rw [List.map_cons] at htrailing
  exact { h with
    line := hframes
    rxSeq := by
      simp only [hlen, h.rxSeq]
      push_cast
      ring
    le_length := hlen ▸ (List.getElem?_eq_some_iff.mp hpayload).1
    dead_ne := by simp
    seq_eq := fun t ht => h.seq_eq t (List.mem_cons_of_mem _ ht)
    payload_eq := fun t ht => h.payload_eq t (List.mem_cons_of_mem _ ht)
    trailing := hlen ▸ htrailing.advance
    delivered := hlen ▸ Lib.sublist_take_succ h.delivered le_rfl hpayload
    delivered_ge := by
      simp only [hlen]
      omega
    nak_le := fun i hi => hlen ▸ (h.nak_le i hi).trans (Nat.le_succ _) }

theorem ask (h : Window x y log live naks) :
    Window x y.nak log live (naks ++ [y.delivered.length]) :=
  { h with
    nak_line := by
      have hseq : y.rxSeq = y.delivered.length := h.rxSeq.trans (add_zero _)
      rw [List.map_append, ← h.nak_line]
      simp [Peer.nak, Peer.control, Peer.send, Frame.isNak, hseq]
    nak_ge := by
      simpa [or_imp, forall_and] using ⟨h.nak_ge, h.delivered_ge⟩
    nak_le := by
      have hdelivered : y.nak.delivered = y.delivered := rfl
      simpa [or_imp, forall_and, hdelivered] using h.nak_le
    nak_sorted := by
      refine List.pairwise_append.mpr ⟨h.nak_sorted, List.pairwise_singleton .., ?_⟩
      simpa using h.nak_le }

theorem receive_user (h : Window x y log live naks) {frame : Frame} {frames : List Frame}
    (hline : x.line = frame :: frames) (huser : frame.isUser = true)
    (hstate : y.connectState = .connected) :
    ∃ live' naks', Window { x with line := frames } (y.receive frame) log live' naks' ∧
      (Pending log.length y.delivered.length live naks →
        Pending log.length (y.receive frame).delivered.length live' naks') := by
  obtain ⟨i, live', rfl, hframes⟩ := h.live_cons hline huser
  have hreceive : y.receive frame = y.handleUSR frame := by
    rw [Peer.receive, if_pos (h.frame_fits List.mem_cons_self)]
    rcases frame with ⟨type, seq, payload⟩
    cases type <;> first | rfl | exact absurd huser (by simp [Frame.isUser])
  have hseq := h.seq_eq_iff (t := (frame, i)) List.mem_cons_self
  rw [hreceive, Peer.handleUSR, if_pos hstate]
  split
  next hnext =>
    obtain rfl := hseq.mp hnext
    refine ⟨live', naks, h.accept hframes, fun hpending => hpending.imp_right fun hbrings => ?_⟩
    rw [Brings, if_pos rfl] at hbrings
    simpa using hbrings
  next hother =>
    have hne : i ≠ y.delivered.length := fun heq => hother (hseq.mpr heq)
    split
    next =>
      exact ⟨live', _, (h.drop hframes).ask, fun _ => .inl (List.concat_ne_nil _ _)⟩
    next hrtx =>
      refine ⟨live', naks, h.drop hframes, fun hpending => hpending.imp_right fun hbrings => ?_⟩
      rw [Brings, if_neg hne] at hbrings
      exact hbrings.resolve_left hrtx

theorem naks_cons (h : Window x y log live naks) {seq : SeqNum} {frames : List Frame}
    (hline : y.line = Frame.nak seq :: frames) :
    ∃ i naks', naks = i :: naks' ∧ seq = i ∧
      frames.filter Frame.isNak = naks'.map fun i : Nat => Frame.nak i := by
  have hfilter := h.nak_line
  rw [hline, List.filter_cons_of_pos rfl] at hfilter
  rcases naks with _ | ⟨i, naks'⟩
  · cases hfilter
  · rw [List.map_cons] at hfilter
    obtain ⟨hseq, hframes⟩ := List.cons_eq_cons.mp hfilter
    exact ⟨i, naks', rfl, congrArg Frame.seq hseq, hframes⟩

theorem drop_nak {i : Nat} (h : Window x y log live (i :: naks)) {frames : List Frame}
    (hframes : frames.filter Frame.isNak = naks.map fun i : Nat => Frame.nak i) :
    Window x { y with line := frames } log live naks :=
  { h with
    nak_line := hframes
    nak_ge := fun j hj => h.nak_ge j (List.mem_cons_of_mem _ hj)
    nak_le := fun j hj => h.nak_le j (List.mem_cons_of_mem _ hj)
    nak_sorted := (List.pairwise_cons.mp h.nak_sorted).2 }

theorem lag_val {i : Nat} (h : Window x y log live naks)
    (hge : log.length ≤ i + x.history.length) (hlt : i < log.length) :
    (x.lag i).val = i - (log.length - x.history.length) := by
  have hcapacity := h.capacity
  have hcap : sfpConfigHistoryCapacity = 8 := rfl
  have hcast : x.lag i = (i - (log.length - x.history.length) : Nat) := by
    rw [Nat.cast_sub (by omega), Nat.cast_sub h.history.length_le, Peer.lag, h.txSeq, add_zero]
  rw [hcast, ZMod.val_natCast, Nat.mod_eq_of_lt (by omega)]

theorem resendFrom {i : Nat} (h : Window x y log live naks)
    (hge : log.length ≤ i + x.history.length) (hlt : i < log.length)
    (hle : i ≤ y.delivered.length) (hnaks : ∀ j ∈ naks, i ≤ j) :
    ∃ live', Window (x.resendFrom i) y log live' naks ∧
      Brings log.length y.delivered.length live' := by
  have hlength : x.history.length ≤ log.length := h.history.length_le
  have hcapacity := h.capacity
  have hlag := h.lag_val hge hlt
  have hdropped : (x.history.drop (x.lag i).val).length = log.length - i := by
    rw [List.length_drop, hlag]
    omega
  have hdrop : GoBackN { x with history := x.history.drop (x.lag i).val } y log 0 y.delivered.length
      [] live :=
    { h with
      history := (List.drop_suffix _ _).trans h.history
      capacity := by
        simp only [hdropped]
        omega }
  have hindex : log.length - (x.history.drop (x.lag i).val).length = i := by omega
  have hseq : i = ((log.length - (x.history.drop (x.lag i).val).length : Nat) : SeqNum) + 0 := by
    rw [hindex, add_zero]
  have hresend := hdrop.resend hseq
  rw [hindex] at hresend
  have hfrom : x.resendFrom i =
      Peer.resend { x with history := x.history.drop (x.lag i).val, txSeq := i } := by
    rw [Peer.resendFrom, if_pos (by omega)]
  have hhistory : (x.resendFrom i).history.length = log.length - i := by
    rw [hfrom, Peer.resend_eq]
    exact hdropped
  refine ⟨live ++ (numbered .rtx i (x.history.drop (x.lag i).val)).zipIdx i, ?_, ?_⟩
  · exact {
      toGoBackN := hfrom ▸ hresend
      nak_line := h.nak_line
      delivered_ge := by omega
      nak_ge := fun j hj => by
        have := hnaks j hj
        omega
      nak_le := h.nak_le
      nak_sorted := h.nak_sorted
      fits := h.fits }
  · refine Brings.resend hle h.le_length (by omega) fun t ht => ?_
    exact h.index_lt t.2 (List.mem_map_of_mem ht)

theorem receive_nak (h : Window x y log live naks) {seq : SeqNum} {frames : List Frame}
    (hline : y.line = Frame.nak seq :: frames) (hstate : x.connectState = .connected) :
    ∃ live' naks', Window (x.receive (.nak seq)) { y with line := frames } log live' naks' ∧
      Pending log.length y.delivered.length live' naks' := by
  obtain ⟨i, naks', rfl, rfl, hframes⟩ := h.naks_cons hline
  have hge := h.nak_ge i List.mem_cons_self
  have hle := h.nak_le i List.mem_cons_self
  have hcapacity := h.capacity
  have hlength := h.le_length
  have hdrop := h.drop_nak hframes
  rw [Peer.receive_nak hstate, h.txSeq, add_zero]
  split
  next hseq =>
    have hall : i = log.length := (near (by omega) (by omega)).mp hseq
    have hall' : y.delivered.length = log.length := by omega
    refine ⟨live, naks', hdrop, .inr ?_⟩
    rw [hall']
    exact Brings.all fun t ht => h.index_lt t.2 (List.mem_map_of_mem ht)
  next hseq =>
    have hlt : i < log.length := by
      refine lt_of_le_of_ne (hle.trans hlength) fun heq => hseq (congrArg _ heq)
    obtain ⟨live', hwindow, hbrings⟩ :=
      hdrop.resendFrom hge hlt hle (List.pairwise_cons.mp h.nak_sorted).1
    exact ⟨live', naks', hwindow, .inr hbrings⟩

theorem receive (h : Window x y log live naks) {frame : Frame} {frames : List Frame}
    (hline : x.line = frame :: frames) (hframe : frame.IsTraffic)
    (hstate : y.connectState = .connected) :
    ∃ live' naks', Window { x with line := frames } (y.receive frame) log live' naks' ∧
      (Pending log.length y.delivered.length live naks →
        Pending log.length (y.receive frame).delivered.length live' naks') := by
  rcases hframe.kind with huser | ⟨seq, rfl⟩
  · exact h.receive_user hline huser hstate
  · have husers : frames.filter Frame.isUser = x.line.filter Frame.isUser := by
      rw [hline]
      rfl
    refine ⟨live, naks, ?_⟩
    rw [Peer.receive_nak hstate]
    split
    · exact ⟨h.congr husers rfl rfl rfl rfl rfl, id⟩
    · have hrxSeq : (y.resendFrom seq).rxSeq = y.rxSeq := by rw [Peer.resendFrom, Peer.resend_eq]
      have hdelivered : (y.resendFrom seq).delivered = y.delivered := by
        rw [Peer.resendFrom, Peer.resend_eq]
      rw [hdelivered]
      exact ⟨h.congr husers rfl rfl hrxSeq hdelivered (y.resendFrom_naks seq), id⟩

theorem send_receive (h : Window x y log live naks) {frame : Frame} {frames : List Frame}
    (hline : y.line = frame :: frames) (hframe : frame.IsTraffic)
    (hstate : x.connectState = .connected) :
    ∃ live' naks', Window (x.receive frame) { y with line := frames } log live' naks' ∧
      (Pending log.length y.delivered.length live naks →
        Pending log.length y.delivered.length live' naks') := by
  rcases hframe.kind with huser | ⟨seq, rfl⟩
  · have hnaks : frames.filter Frame.isNak = y.line.filter Frame.isNak := by
      rw [hline, List.filter_cons_of_neg (Frame.not_isNak huser)]
    refine ⟨live, naks, ?_, id⟩
    rcases Peer.receive_cases hstate hframe with heq | heq | ⟨-, -, heq⟩ | ⟨seq, rfl, -, -⟩
    · rw [heq]
      exact h.congr rfl rfl rfl rfl rfl hnaks
    · rw [heq]
      refine h.congr ?_ rfl rfl rfl rfl hnaks
      simp [Peer.nak, Peer.control, Peer.send, Frame.isUser]
    · rw [heq]
      exact h.congr rfl rfl rfl rfl rfl hnaks
    · cases huser
  · obtain ⟨live', naks', hwindow, hpending⟩ := h.receive_nak hline hstate
    exact ⟨live', naks', hwindow, fun _ => hpending⟩

theorem length_history_write (x : Peer) (packet : List UInt8) :
    (x.write packet).history.length =
      if x.history.length = sfpConfigHistoryCapacity then sfpConfigHistoryCapacity
      else x.history.length + 1 := by
  have hcapacity : sfpConfigHistoryCapacity = 8 := rfl
  simp only [Peer.write, Peer.transmit, Peer.send, Peer.remember]
  split <;> simp
  omega

theorem ne_oldest (h : Window x y log live naks)
    (hlag : ∀ seq, Frame.nak seq ∈ y.line → x.lag seq ≠ 0) :
    ∀ i ∈ naks, i ≠ log.length - x.history.length := by
  rintro i hi rfl
  have hmem : Frame.nak (log.length - x.history.length : Nat) ∈ y.line := by
    have hmem := List.mem_map_of_mem (f := fun i : Nat => Frame.nak i) hi
    rw [← h.nak_line] at hmem
    exact List.mem_of_mem_filter hmem
  refine hlag _ hmem ?_
  rw [Peer.lag, h.txSeq, Nat.cast_sub h.history.length_le]
  ring

theorem write (h : Window x y log live naks) {packet : List UInt8}
    (hpacket : packet.length + sfpCrcSize ≤ sfpConfigMaxPacketSize)
    (hfull : x.history.length = sfpConfigHistoryCapacity →
      log.length < y.delivered.length + sfpConfigHistoryCapacity ∧
      ∀ seq, Frame.nak seq ∈ y.line → x.lag seq ≠ 0) :
    ∃ live', Window (x.write packet) y (log ++ [packet]) live' naks ∧
      Brings (log.length + 1) y.delivered.length live' := by
  have hhistory := length_history_write x packet
  have hlen : (log ++ [packet]).length = log.length + 1 := by simp
  refine ⟨_, {
    toGoBackN := h.toGoBackN.write packet
    nak_line := h.nak_line
    delivered_ge := ?_
    nak_ge := ?_
    nak_le := h.nak_le
    nak_sorted := h.nak_sorted
    fits := ?_ }, Brings.write ..⟩
  · have hge := h.delivered_ge
    rw [hlen, hhistory]
    split
    next hsize =>
      have := (hfull hsize).1
      omega
    next => omega
  · intro i hi
    have hge := h.nak_ge i hi
    rw [hlen, hhistory]
    split
    next hsize =>
      have hne := h.ne_oldest (hfull hsize).2 i hi
      omega
    next => omega
  · simpa [or_imp, forall_and] using ⟨h.fits, hpacket⟩

theorem lose (h : Window x y log live naks) {frames : List Frame} (hsub : frames.Sublist x.line) :
    ∃ live', Window { x with line := frames } y log live' naks := by
  have hfilter := hsub.filter Frame.isUser
  rw [h.line, List.nil_append] at hfilter
  obtain ⟨live', hlive, hframes⟩ := List.sublist_map_iff.mp hfilter
  exact ⟨live', { h with
    line := hframes
    seq_eq := fun t ht => h.seq_eq t (hlive.subset ht)
    payload_eq := fun t ht => h.payload_eq t (hlive.subset ht)
    trailing := h.trailing.sublist (hlive.map _) }⟩

theorem lose_nak (h : Window x y log live naks) {frames : List Frame}
    (hsub : frames.Sublist y.line) :
    ∃ naks', Window x { y with line := frames } log live naks' := by
  have hfilter := hsub.filter Frame.isNak
  rw [h.nak_line] at hfilter
  obtain ⟨naks', hnaks, hframes⟩ := List.sublist_map_iff.mp hfilter
  exact ⟨naks', { h with
    nak_line := hframes
    nak_ge := fun i hi => h.nak_ge i (hnaks.subset hi)
    nak_le := fun i hi => h.nak_le i (hnaks.subset hi)
    nak_sorted := h.nak_sorted.sublist hnaks }⟩

theorem all_delivered (h : Window x y log live naks)
    (hpending : Pending log.length y.delivered.length live naks) (hx : x.line = [])
    (hy : y.line = []) : y.delivered = log := by
  have hnaks : naks = [] := by simpa [hy] using h.nak_line
  have hlive : live = [] := by simpa [hx] using h.line
  obtain hne | hbrings := hpending
  · exact absurd hnaks hne
  · rw [hlive, Brings] at hbrings
    rw [h.delivered_eq, hbrings, List.take_length]

end Window

end TurningPoint
