import TrustTunnel.Lib.Framing
import TrustTunnel.Upstream.Udp.Multiplexer

namespace TrustTunnel.Upstream.Udp.Receive

open Lib.Framing Udp.Multiplexer List

variable {mux mux' : HttpUdpMultiplexer} {data read : List UInt8} {p : Position UInt8 (Option ℕ)}
  {left n : ℕ}

/-- The packets of the stream as frames: the prefix tells the length, and whom to tell. -/
def format (mux : HttpUdpMultiplexer) : Format UInt8 (Option ℕ) where
  size := udppktInPrefixSize
  size_pos := by decide
  announce header :=
    ((mux.readPrefix header).id.filter mux.isReadEnabled, (mux.readPrefix header).payloadLength)

def reads (trace : List Happening) : List (ℕ × List UInt8) :=
  trace.filterMap fun
    | .read id data => some (id, data)
    | _ => none

def reported (done : List (Option ℕ × List UInt8)) : List (ℕ × List UInt8) :=
  done.filterMap fun r ↦ r.1.map fun id ↦ (id, r.2)

/-- The state of the receiver stands for the position in the frames. -/
def Tracks (r : RecvConnection) : Position UInt8 (Option ℕ) → Prop
  | .header read => r = { buffer := read } ∧ read.length < udppktInPrefixSize
  | .body (some id) left read =>
    r = { state := .payload, id := some id, bytesLeft := left, buffer := read }
  | .body none left _ => r = { state := .dropping, bytesLeft := left }

def Alike (mux mux' : HttpUdpMultiplexer) : Prop :=
  mux'.addrToId = mux.addrToId ∧ ∀ id, mux'.isReadEnabled id = mux.isReadEnabled id

theorem Alike.rfl : Alike mux mux := ⟨Eq.refl _, fun _ ↦ Eq.refl _⟩

theorem Alike.trans {a b c : HttpUdpMultiplexer} (h : Alike a b) (h' : Alike b c) : Alike a c :=
  ⟨h'.1.trans h.1, fun id ↦ (h'.2 id).trans (h.2 id)⟩

theorem Alike.format {a b : HttpUdpMultiplexer} (h : Alike a b) : format b = format a := by
  have hp : b.readPrefix = a.readPrefix := by
    funext data
    simp only [HttpUdpMultiplexer.readPrefix, h.1]
  have he : b.isReadEnabled = a.isReadEnabled := funext h.2
  simp only [Receive.format, hp, he]

theorem isReadEnabled_modifyConnection (m : HttpUdpMultiplexer) (id : ℕ)
    (f : Connection → Connection) (hf : ∀ c, (f c).readEnabled = c.readEnabled) (k : ℕ) :
    (m.modifyConnection id f).isReadEnabled k = m.isReadEnabled k := by
  simp only [HttpUdpMultiplexer.isReadEnabled, HttpUdpMultiplexer.modifyConnection,
    Lib.Assoc.lookup_modify]
  split
  · next hk =>
    subst hk
    cases m.connections.lookup k with
    | none => rfl
    | some c => exact hf c
  · rfl

@[simp] theorem reads_append (a b : List Happening) : reads (a ++ b) = reads a ++ reads b :=
  filterMap_append

@[simp] theorem reported_append (a b : List (Option ℕ × List UInt8)) :
    reported (a ++ b) = reported a ++ reported b := filterMap_append

def turns : Position UInt8 (Option ℕ) → List UInt8 → ℕ
  | .header _, data => 2 * data.length
  | .body _ _ _, data => 2 * data.length + 1

/-- One turn of the loop: it goes on by some of the data and reports what is complete. -/
structure Turn (mux : HttpUdpMultiplexer) (p : Position UInt8 (Option ℕ)) (data : List UInt8)
    (r : HttpUdpMultiplexer × List UInt8) : Prop where
  alike : Alike mux r.1
  advance : ∃ p' done, Tracks r.1.recvConnection p' ∧ turns p' r.2 < turns p data ∧
    reads r.1.trace = reads mux.trace ++ reported done ∧
    (format mux).feed p data = (((format mux).feed p' r.2).1, done ++ ((format mux).feed p' r.2).2)

theorem Turn.of_take {p' : Position UInt8 (Option ℕ)} {d : List (Option ℕ × List UInt8)}
    (h : (format mux).feed p (data.take n) = (p', d)) (hn : 0 < n) (ha : data ≠ [])
    (he : Alike mux mux') (hs : Tracks mux'.recvConnection p')
    (hr : reads mux'.trace = reads mux.trace ++ reported d) :
    Turn mux p data (mux', data.drop n) := by
  have hl : 0 < data.length := length_pos_of_ne_nil ha
  refine ⟨he, p', d, hs, ?_, hr, ?_⟩
  · cases p <;> cases p' <;> simp only [turns, length_drop] <;> omega
  · conv_lhs => rw [← take_append_drop n data]
    rw [Format.feed_append, h]

theorem tracks_expect (h : mux.recvConnection.id = none) (i : PacketInfo) :
    Tracks (mux.expect i) (.body (i.id.filter mux.isReadEnabled) i.payloadLength []) := by
  unfold HttpUdpMultiplexer.expect
  split
  · next id hi =>
    rw [hi]
    exact rfl
  · next hi =>
    rw [hi, h]
    exact rfl

theorem turn_header (e : Env) (ha : data ≠ []) (h : Tracks mux.recvConnection (.header read)) :
    Turn mux (.header read) data (receive e mux data) := by
  obtain ⟨hr, hd⟩ := h
  have hl : 0 < data.length := length_pos_of_ne_nil ha
  generalize hn : min (udppktInPrefixSize - read.length) data.length = n
  have ht : (data.take n).length = n := by
    rw [length_take]
    omega
  have hi : (format mux).size = udppktInPrefixSize := rfl
  simp only [receive, hr, length_append, hn, ht]
  split
  · next hs =>
    have he : (format mux).feed (.header read) (data.take n) =
        (.header (read ++ data.take n), []) := Format.feed_header _ (by omega)
    refine .of_take he (by omega) ha .rfl ⟨rfl, ?_⟩ (by simp [reported])
    rw [length_append]
    omega
  · have hf : read.length + (data.take n).length = (format mux).size := by omega
    have he := (format mux).feed_header_full hf hd
    refine .of_take he (by omega) ha .rfl ?_ (by simp [reported])
    exact tracks_expect (by rw [hr]) _

theorem Turn.finish {v : Option ℕ} (hn : min left data.length = n) (ha : data ≠ [])
    (hl : left - n = 0) (he : Alike mux mux') (hv : mux'.recvConnection = {})
    (hs : reads mux'.trace = reads mux.trace ++ reported [(v, read ++ data.take n)]) :
    Turn mux (.body v left read) data (mux', data.drop n) := by
  have hle : 0 < data.length := length_pos_of_ne_nil ha
  have hr : Tracks mux'.recvConnection (.header []) := ⟨hv, by decide⟩
  by_cases hzero : left = 0
  · -- No byte is taken: the packet was complete before this turn.
    have hn0 : n = 0 := by omega
    rw [hn0, take_zero, append_nil] at hs
    rw [hn0, hzero, drop_zero]
    refine ⟨he, .header [], [(v, read)], hr, Nat.lt_succ_self _, hs, ?_⟩
    rw [Format.feed_body_zero _ _ _ ha]
    rfl
  · have ht : (data.take n).length = left := by
      rw [length_take]
      omega
    have hne : data.take n ≠ [] := by
      intro h
      rw [h, length_nil] at ht
      omega
    have hf : (format mux).feed (.body v (data.take n).length read) (data.take n) =
        (.header [], [(v, read ++ data.take n)]) := Format.feed_body_full _ hne
    rw [ht] at hf
    exact .of_take hf (by omega) ha he hr hs

theorem Turn.progress {v : Option ℕ} (hn : min left data.length = n) (h : data ≠ [])
    (hl : left - n ≠ 0) (he : Alike mux mux')
    (hs : Tracks mux'.recvConnection (.body v (left - n) (read ++ data.take n)))
    (hr : mux'.trace = mux.trace) : Turn mux (.body v left read) data (mux', data.drop n) := by
  have hle : 0 < data.length := length_pos_of_ne_nil h
  have ht : (data.take n).length = n := by
    rw [length_take]
    omega
  have hf : (format mux).feed (.body v left read) (data.take n) =
      (.body v (left - (data.take n).length) (read ++ data.take n), []) :=
    Format.feed_body _ (by omega)
  rw [ht] at hf
  exact .of_take hf (by omega) h he hs (by simp [hr, reported])

theorem turn_dropping (env : Env) (ha : data ≠ [])
    (h : Tracks mux.recvConnection (.body none left read)) :
    Turn mux (.body none left read) data (receive env mux data) := by
  have hr : mux.recvConnection = ⟨.dropping, none, left, []⟩ := h
  generalize hn : min left data.length = n
  simp only [receive, hr, hn]
  split
  · next hl => exact .finish hn ha hl .rfl rfl (by simp [reported])
  · next hl => exact .progress hn ha hl .rfl rfl rfl

section Quiet

variable {e : Env} (hq : e.reaction = fun _ ↦ [])
include hq

theorem raise_of_quiet (event : Happening) (m : HttpUdpMultiplexer) :
    raise e event m = m.emit event := by
  simp [raise, hq]

theorem turn_payload {id : ℕ} (ha : data ≠ [])
    (h : Tracks mux.recvConnection (.body (some id) left read)) :
    Turn mux (.body (some id) left read) data (receive e mux data) := by
  have hr : mux.recvConnection = ⟨.payload, some id, left, read⟩ := h
  generalize hn : min left data.length = n
  have he : Alike mux (mux.modifyConnection id fun c ↦
      { c with timeout := e.now + vpnDefaultUdpTimeoutMs }) :=
    ⟨rfl, isReadEnabled_modifyConnection mux id _ fun _ ↦ rfl⟩
  simp only [receive, hr, hn, Option.getD_some, raise_of_quiet hq]
  split
  · next hl => exact .finish hn ha hl he rfl (reads_append _ _)
  · next hl => exact .progress hn ha hl he rfl rfl

theorem turn (ha : data ≠ []) (h : Tracks mux.recvConnection p) :
    Turn mux p data (receive e mux data) := by
  rcases p with r | ⟨_ | id, left, r⟩
  · exact turn_header e ha h
  · exact turn_dropping e ha h
  · exact turn_payload hq ha h

/-- With enough fuel the loop reads all of the data. -/
theorem receiveLoop_tracks (fuel : ℕ) (h : Tracks mux.recvConnection p) (hl : turns p data ≤ fuel) :
    Alike mux (receiveLoop e fuel mux data) ∧
    Tracks (receiveLoop e fuel mux data).recvConnection ((format mux).feed p data).1 ∧
    reads (receiveLoop e fuel mux data).trace =
      reads mux.trace ++ reported ((format mux).feed p data).2 := by
  induction fuel generalizing mux p data with
  | zero =>
    have hd : data = [] := by
      rw [← length_eq_zero_iff]
      cases p <;> simp only [turns] at hl <;> omega
    subst hd
    exact ⟨.rfl, h, by simp [receiveLoop, reported]⟩
  | succ fuel ih =>
    simp only [receiveLoop]
    split
    · next hd =>
      rw [isEmpty_iff.1 hd]
      exact ⟨.rfl, h, by simp [reported]⟩
    · next hd =>
      have hn : data ≠ [] := fun he ↦ hd (isEmpty_iff.2 he)
      obtain ⟨hal, p', d, hp', hu, hs, hf⟩ := turn hq hn h
      have hre : turns p' (receive e mux data).2 ≤ fuel := by omega
      obtain ⟨ha, ht, hr⟩ := ih hp' hre
      rw [hal.format] at ht hr
      refine ⟨hal.trans ha, ?_, ?_⟩
      · rw [hf]
        exact ht
      · rw [hf, hr, hs, reported_append, append_assoc]

theorem processReadEvent_tracks (h : Tracks mux.recvConnection p) (d : List UInt8) :
    Alike mux (processReadEvent e mux d) ∧
    Tracks (processReadEvent e mux d).recvConnection ((format mux).feed p d).1 ∧
    reads (processReadEvent e mux d).trace =
      reads mux.trace ++ reported ((format mux).feed p d).2 := by
  have hf : turns p d ≤ 2 * d.length + 1 := by
    cases p <;> simp only [turns] <;> omega
  obtain ⟨ha, ht, hr⟩ := receiveLoop_tracks hq (2 * d.length + 1) h hf
  refine ⟨ha, ht, ?_⟩
  rw [← hr]
  exact (reads_append _ _).trans (append_nil _)

end Quiet

def processChunks (mux : HttpUdpMultiplexer) (chunks : List (ℕ × List UInt8)) :
    HttpUdpMultiplexer :=
  chunks.foldl (fun mux chunk ↦ processReadEvent { now := chunk.1 } mux chunk.2) mux

/-- The run lemma: however the stream is cut, what is reported is what the frames say. -/
theorem processChunks_tracks (h : Tracks mux.recvConnection p) (cs : List (ℕ × List UInt8)) :
    Alike mux (processChunks mux cs) ∧
    Tracks (processChunks mux cs).recvConnection
      ((format mux).feed p (cs.flatMap Prod.snd)).1 ∧
    reads (processChunks mux cs).trace =
      reads mux.trace ++ reported ((format mux).feed p (cs.flatMap Prod.snd)).2 := by
  induction cs generalizing mux p with
  | nil => exact ⟨.rfl, h, by simp [processChunks, reported]⟩
  | cons c cs ih =>
    let e : Env := { now := c.1 }
    have hq : e.reaction = fun _ ↦ [] := rfl
    obtain ⟨ha, ht, hr⟩ := processReadEvent_tracks hq h c.2
    obtain ⟨ha', ht', hr'⟩ := ih ht
    rw [ha.format] at ht' hr'
    rw [flatMap_cons, Format.feed_append]
    refine ⟨ha.trans ha', ht', ?_⟩
    rw [reported_append, ← append_assoc, ← hr]
    exact hr'

theorem tracks_start (h : mux.recvConnection = {}) : Tracks mux.recvConnection (.header []) :=
  ⟨h, by decide⟩

end TrustTunnel.Upstream.Udp.Receive
