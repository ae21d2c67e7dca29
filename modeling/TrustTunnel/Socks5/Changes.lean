import TrustTunnel.Lib.Transition
import TrustTunnel.Socks5.Listener

namespace TrustTunnel.Socks5.Changes

open Lib.Assoc Lib.Transition Net.Address Net.Wire Messages Listener Socks5Listener List

variable {s t : Socks5Listener} {c c' d x : Connection} {id : ℕ} {env : Surroundings}

/-- The request begins with the command CONNECT. -/
def asked (input : List UInt8) : Bool :=
  byteAt input 0 == socks5Ver && byteAt input 1 == cmdConnect

/-- The connection has got as far as the command CONNECT. -/
def commanded (c : Connection) : Bool :=
  match c.state with
  | .idle | .waitingUsernamePassword => false
  | .waitingRequest => asked c.input
  | _ => true

/-- The protocol is set by the command CONNECT, and a relay has an established connection. -/
structure Known (relays : List ℕ) (id : ℕ) (c : Connection) : Prop where
  id_eq : c.id = id
  commanded : c.proto = some .tcp → Changes.commanded c = true
  relay : id ∈ relays → c.state = .established ∧ c.proto = none

structure Valid (s : Socks5Listener) : Prop where
  relays : ∀ i ∈ s.udpRelays, i < s.nextConnId
  lt : ∀ i c, s.connections.lookup i = some c → i < s.nextConnId
  known : ∀ i c, s.connections.lookup i = some c → Known s.udpRelays i c

/-- A connection that has failed stays so. The protocol of one that fails says whether CONNECT was
sent. -/
structure Turns (c c' : Connection) : Prop where
  failed : c.state = .failed → c'.state = .failed ∧ c'.proto = c.proto
  fails : c.state ≠ .failed → c'.state = .failed → (c'.proto = some .tcp ↔ commanded c = true)

/-- What one step can do: the connections of `t` are new or have turned from those of `s`. -/
structure Moves (s t : Socks5Listener) : Prop extends Valid t where
  next : s.nextConnId ≤ t.nextConnId
  past : ∀ i c', t.connections.lookup i = some c' →
    s.nextConnId ≤ i ∨ ∃ c, s.connections.lookup i = some c ∧ Turns c c'

/-- The same stage of the handshake, with no less of the request. -/
structure Same (c c' : Connection) : Prop where
  id : c'.id = c.id
  state : c'.state = c.state
  proto : c'.proto = c.proto
  input : c.state = .waitingRequest → c.input <+: c'.input

theorem byteAt_of_isPrefix {l l' : List UInt8} {k : ℕ} (h : l <+: l') (hk : k < l.length) :
    byteAt l' k = byteAt l k := by
  obtain ⟨d, rfl⟩ := h
  rw [byteAt, byteAt, getD_eq_getElem?_getD, getD_eq_getElem?_getD, getElem?_append_left hk]

theorem lt_of_byteAt {l : List UInt8} {k : ℕ} (h : byteAt l k ≠ 0) : k < l.length := by
  by_contra hk
  rw [byteAt, getD_eq_getElem?_getD, getElem?_eq_none (Nat.not_lt.1 hk)] at h
  exact h rfl

theorem Same.commanded (h : Same c c') (hc : commanded c = true) : commanded c' = true := by
  unfold Changes.commanded at hc ⊢
  rw [h.state]
  split at hc
  · cases hc
  · cases hc
  · next hs =>
    have hp := h.input hs
    simp only [asked, Bool.and_eq_true, beq_iff_eq] at hc ⊢
    rw [byteAt_of_isPrefix hp (lt_of_byteAt (hc.1 ▸ by decide)),
      byteAt_of_isPrefix hp (lt_of_byteAt (hc.2 ▸ by decide))]
    exact hc
  · rfl

theorem Known.of_same {r : List ℕ} (h : Known r id c) (hs : Same c c') : Known r id c' := by
  refine ⟨hs.id.trans h.id_eq, fun hp ↦ hs.commanded (h.commanded (hs.proto ▸ hp)), ?_⟩
  rw [hs.state, hs.proto]
  exact h.relay

namespace Valid

theorem lookup_of_mem {r : ℕ} (hv : Valid s) (hc : c ∈ s.connectionsOf r) :
    s.connections.lookup c.id = some c := by
  obtain ⟨e, he, rfl⟩ := mem_map.1 (mem_filter.1 hc).1
  have hl := AList.mem_lookup_iff.2 he
  rw [(hv.known _ _ hl).id_eq]
  exact hl

theorem not_relay (hv : Valid s) (hc : s.connections.lookup id = some c)
    (hn : c.state ≠ .established) : id ∉ s.udpRelays :=
  fun hm ↦ hn ((hv.known id c hc).relay hm).1

theorem moves (hv : Valid s) : Moves s s :=
  ⟨hv, Nat.le_refl _, fun _ c hc ↦ .inr ⟨c, hc, fun hf ↦ ⟨hf, rfl⟩, fun hn hf ↦ (hn hf).elim⟩⟩

end Valid

namespace Moves

theorem record (h : Moves s t) (r : Record) : Moves s (t.record r) :=
  ⟨⟨h.relays, h.lt, h.known⟩, h.next, h.past⟩

theorem destroy (h : Moves s t) (id : ℕ) : Moves s (t.destroyConnection id) :=
  ⟨⟨h.relays, fun _ c hc ↦ h.lt _ c (lookup_erase_eq_some.1 hc).2,
    fun _ c hc ↦ h.known _ c (lookup_erase_eq_some.1 hc).2⟩, h.next,
    fun _ c hc ↦ h.past _ c (lookup_erase_eq_some.1 hc).2⟩

theorem closeConnected (h : Moves s t) (id : ℕ) : Moves s (t.closeConnected id) :=
  (h.record _).destroy id

theorem close (h : Moves s t) (c : Connection) : Moves s (t.close c) := by
  unfold Socks5Listener.close
  split
  · exact h.destroy _
  · exact h.closeConnected _

theorem insert (h : Moves s t) (hl : c.id < t.nextConnId) (hk : Known t.udpRelays c.id c)
    (hp : s.nextConnId ≤ c.id ∨ ∃ x, s.connections.lookup c.id = some x ∧ Turns x c) :
    Moves s (t.put c) := by
  have hi : ∀ i x, (t.put c).connections.lookup i = some x →
      i = c.id ∧ x = c ∨ t.connections.lookup i = some x := by
    intro i x hx
    rw [Socks5Listener.put, Lib.Assoc.lookup_insert] at hx
    split at hx
    · next he => exact .inl ⟨he, (Option.some.inj hx).symm⟩
    · exact .inr hx
  refine ⟨⟨h.relays, fun i x hx ↦ ?_, fun i x hx ↦ ?_⟩, h.next, fun i x hx ↦ ?_⟩
  · rcases hi i x hx with ⟨rfl, -⟩ | hx
    · exact hl
    · exact h.lt i x hx
  · rcases hi i x hx with ⟨rfl, rfl⟩ | hx
    · exact hk
    · exact h.known i x hx
  · rcases hi i x hx with ⟨rfl, rfl⟩ | hx
    · exact hp
    · exact h.past i x hx

theorem same (h : Moves s t) (hc : t.connections.lookup c'.id = some c) (hs : Same c c') :
    Moves s (t.put c') := by
  refine h.insert (h.lt _ c hc) ((h.known _ c hc).of_same hs) ((h.past _ c hc).imp_right ?_)
  rintro ⟨x, hx, ht⟩
  exact ⟨x, hx, by rw [hs.state, hs.proto]; exact ht.failed,
    by rw [hs.state, hs.proto]; exact ht.fails⟩

/-- A connection that has not failed gets to another stage. -/
theorem put (h : Moves s t) (hv : Valid s) (hc : s.connections.lookup d.id = some c)
    (hn : c.state ≠ .failed) (hp : d.proto = some .tcp → commanded d = true)
    (hr : d.id ∈ t.udpRelays → d.state = .established ∧ d.proto = none)
    (hf : d.state = .failed → (d.proto = some .tcp ↔ commanded c = true)) : Moves s (t.put d) :=
  h.insert ((hv.lt _ c hc).trans_le h.next) ⟨rfl, hp, hr⟩
    (.inr ⟨c, hc, fun he ↦ (hn he).elim, fun _ ↦ hf⟩)

theorem dropRelay (h : Moves s t) (id : ℕ) :
    Moves s { t with udpRelays := t.udpRelays.erase id } :=
  ⟨⟨fun i hi ↦ h.relays i (erase_subset hi), h.lt, fun i c hc ↦
    ⟨(h.known i c hc).id_eq, (h.known i c hc).commanded,
      fun hi ↦ (h.known i c hc).relay (erase_subset hi)⟩⟩, h.next, h.past⟩

theorem addRelay (h : Moves s (t.put c)) (hs : c.state = .established) (hp : c.proto = none) :
    Moves s { t.put c with udpRelays := c.id :: t.udpRelays } := by
  have hc : (t.put c).connections.lookup c.id = some c := by
    rw [Socks5Listener.put, Lib.Assoc.lookup_insert, if_pos rfl]
  refine ⟨⟨forall_mem_cons.2 ⟨h.lt _ c hc, h.relays⟩, h.lt, fun i x hx ↦
    ⟨(h.known i x hx).id_eq, (h.known i x hx).commanded, fun hi ↦ ?_⟩⟩, h.next, h.past⟩
  rcases mem_cons.1 hi with rfl | hi
  · cases hc.symm.trans hx
    exact ⟨hs, hp⟩
  · exact (h.known i x hx).relay hi

theorem terminate (h : Moves s { t with udpRelays := t.udpRelays.erase id }) :
    Moves s (t.terminateUdpAssociation id) := by
  refine destroy (record ?_ _) id
  exact foldlRecOn (motive := fun t : Socks5Listener ↦ Moves s { t with
    udpRelays := t.udpRelays.erase id }) _ _ h fun _ ht i _ ↦ ht.closeConnected i

theorem readLoop {reads : List (ℤ × ℕ)} {shown : ℕ} (h : Moves s t)
    (hc : t.connections.lookup c'.id = some c) (hs : Same c c') (hn : c.state = .established) :
    Moves s (readLoop reads shown c' t) := by
  induction reads generalizing t c' shown with
  | nil => exact h.same hc hs
  | cons r reads ih =>
    obtain ⟨result, next⟩ := r
    have hs' : Same c { c' with input := c'.input.drop result.toNat } :=
      ⟨hs.id, hs.state, hs.proto, fun hw ↦ by rw [hn] at hw; cases hw⟩
    simp only [Socks5Listener.readLoop]
    split
    · exact (h.record _).close _
    · split
      · exact (h.record _).same hc hs
      · split
        · split
          · exact (h.record _).close _
          · exact (h.record _).same hc hs'
        · exact ih (h.record _) hc hs'

theorem sendPackets {refused : List Bool} {packets : List (List UInt8)} (h : Moves s t) :
    Moves s (sendPackets id packets refused t) := by
  induction packets generalizing t refused with
  | nil => exact h
  | cons p packets ih =>
    simp only [Socks5Listener.sendPackets]
    split
    · exact (h.record _).closeConnected id
    · exact ih (h.record _)

end Moves

section Steps

variable (hv : Valid s)

include hv

theorem moves_terminate (id : ℕ) : Moves s (s.terminateUdpAssociation id) :=
  .terminate (hv.moves.dropRelay id)

theorem moves_sendPendingUdpData (refused : ℕ → List Bool) :
    Moves s (s.sendPendingUdpData refused) := by
  refine foldlRecOn _ _ (by exact ⟨⟨hv.relays, hv.lt, hv.known⟩, Nat.le_refl _, hv.moves.past⟩)
    fun t ht i _ ↦ ?_
  cases hc : t.connections.lookup i with
  | none => exact ht
  | some c =>
    have hi : c.id = i := (ht.known i c hc).id_eq
    apply Moves.sendPackets
    exact ht.same (c := c) (by rwa [hi]) ⟨rfl, rfl, rfl, fun _ ↦ prefix_rfl⟩

theorem moves_stop (places : ℕ → ℕ) : Moves s (s.stop places) := by
  refine foldlRecOn _ _ (foldlRecOn _ _ ?_ fun t ht i _ ↦ .terminate (ht.dropRelay i))
    fun t ht i _ ↦ (ht.destroy i).record _
  exact ⟨⟨hv.relays, hv.lt, hv.known⟩, Nat.le_refl _, hv.moves.past⟩

/-- A reply is written in place of the state that was waited in, or the connection is closed. -/
theorem moves_answer {w : Bool} {reply : List UInt8} {n : ℕ} {state : ConnectionState}
    (hc : s.connections.lookup x.id = some c) (hs : c.state.early = true)
    (hp : x.proto = some .tcp ↔ commanded c = true) (hf : commanded c = true → state = .failed) :
    Moves s (s.answer x w (.answer reply n state)) := by
  simp only [answer]
  split
  · refine (hv.moves.record _).put hv hc (fun hn ↦ ?_) (fun ht ↦ ?_) (fun hm ↦ ?_) fun _ ↦ hp
    · rw [hn] at hs
      cases hs
    · rw [hf (hp.1 ht)]
      rfl
    · rw [((hv.known _ c hc).relay hm).1] at hs
      cases hs
  · exact hv.moves.close _

end Steps

/-- What a verdict on a request says of the command. -/
def Judged (connect : Bool) : RequestVerdict → Prop
  | .wait proto => proto = some .tcp → connect = true
  | .invalid _ proto => proto = some .tcp ↔ connect = true
  | .valid .connect _ _ _ => True
  | .valid .udpAssociate _ _ _ => connect = false

theorem request_judged {proto : Option IpProto} {chunk input : List UInt8} (hp : chunk <+: input)
    (h : proto = some .tcp → asked input = true) : Judged (asked input) (request proto chunk) := by
  unfold request
  split
  · exact h
  · next hl =>
    have ha : asked input = asked chunk := by
      rw [asked, asked, byteAt_of_isPrefix hp (by omega), byteAt_of_isPrefix hp (by omega)]
    rw [ha] at h ⊢
    by_cases hv : byteAt chunk 0 = socks5Ver
    · by_cases hc : byteAt chunk 1 = cmdConnect
      · have ht : asked chunk = true := by simp [asked, hv, hc]
        simp only [hv, hc, ne_eq, not_true_eq_false, false_and, if_true, if_false, ht]
        split
        · exact iff_of_true rfl rfl
        · split
          · exact iff_of_true rfl rfl
          · split
            · exact fun _ ↦ rfl
            · trivial
      · have hf : asked chunk = false := by simp [asked, hc]
        have hn : proto ≠ some .tcp := by
          intro hs
          cases hf.symm.trans (h hs)
        simp only [hv, hc, ne_eq, not_true_eq_false, not_false_eq_true, true_and, if_false, hf]
        split
        · exact iff_of_false hn Bool.false_ne_true
        · split
          · exact iff_of_false hn Bool.false_ne_true
          · split
            · exact iff_of_false hn Bool.false_ne_true
            · split
              · exact fun hs ↦ (hn hs).elim
              · rfl
    · have hf : asked chunk = false := by simp [asked, hv]
      simp only [ne_eq, hv, not_false_eq_true, if_true, hf] at h ⊢
      exact iff_of_false (fun hs ↦ Bool.false_ne_true (h hs)) Bool.false_ne_true

section Handlers

variable (hv : Valid s)

include hv

theorem moves_completeUdpAssociation {n : ℕ} (hc : s.connections.lookup x.id = some c)
    (hs : c.state = .waitingRequest) (ha : asked c.input = false) (hp : x.proto = none) :
    Moves s (s.completeUdpAssociation x n env) := by
  have hr : x.id ∉ s.udpRelays := hv.not_relay hc (by simp [hs])
  have hn : c.state ≠ .failed := by simp [hs]
  simp only [completeUdpAssociation]
  cases hw : env.written with
  | false =>
    rw [if_neg Bool.false_ne_true]
    split
    · refine .terminate ?_
      change Moves s { s.record _ with udpRelays := (x.id :: s.udpRelays).erase x.id }
      rw [erase_cons_head]
      exact hv.moves.record _
    · exact moves_terminate hv _
  | true =>
    rw [if_pos rfl]
    cases env.udpSocket.isSome with
    | true =>
      have hm := ((hv.moves.record (.associated x.id)).record (.reply x.id
        (associationReply x.dst env.udpSocket))).put (d := { x with
          state := .established
          input := x.input.drop n }) hv hc hn (fun _ ↦ rfl)
              (fun hm ↦ (hr hm).elim) fun hf ↦ by cases hf
      exact hm.addRelay rfl hp
    | false =>
      refine (hv.moves.record _).put hv hc hn (fun _ ↦ rfl) (fun hm ↦ (hr hm).elim) fun _ ↦ ?_
      simp [hp, commanded, hs, ha]

theorem moves_onRequest {chunk : List UInt8} (hc : s.connections.lookup c.id = some c)
    (hs : c.state = .waitingRequest) (hu : c.proto ≠ some .udp) (hp : chunk <+: c.input) :
    Moves s (s.onRequest c chunk env) := by
  have hk := hv.known _ _ hc
  have hn : c.state ≠ .failed := by simp [hs]
  have hr : c.id ∉ s.udpRelays := hv.not_relay hc (by simp [hs])
  have ha : commanded c = asked c.input := by simp [commanded, hs]
  have hj := request_judged hp (ha ▸ hk.commanded)
  simp only [onRequest]
  split
  · next p he =>
    rw [he] at hj
    refine hv.moves.put hv hc hn (fun ht ↦ ?_) (fun hm ↦ (hr hm).elim) fun hf ↦ (hn hf).elim
    simp only [commanded, hs]
    exact hj ht
  · next st p he =>
    rw [he] at hj
    exact moves_answer hv hc (by rw [hs]; rfl) (ha ▸ hj) fun _ ↦ rfl
  · exact (hv.moves.record _).put hv hc hn (fun _ ↦ rfl)
      (fun hm ↦ (hr hm).elim) fun hf ↦ by cases hf
  · next dst app m he =>
    rw [he] at hj
    refine moves_completeUdpAssociation hv hc hs hj ?_
    rcases hq : c.proto with _ | _ | _
    · rfl
    · have := hk.commanded hq
      rw [ha] at this
      cases hj.symm.trans this
    · exact (hu hq).elim

theorem moves_onReadable (hc : s.connections.lookup c.id = some c) (hu : c.proto ≠ some .udp) :
    Moves s (s.onReadable c env) := by
  have hk := hv.known _ _ hc
  have hm := hv.moves
  simp only [onReadable]
  split
  · exact hm
  · split
    · exact moves_terminate hv _
    · split
      · exact hm.close _
      · have hi : ∀ v, c.state.early = true → commanded c = false →
            Moves s (s.answer c env.written v) := by
          intro v he hf
          have hn : ¬commanded c = true := by simp [hf]
          cases v with
          | wait => exact hm
          | answer reply n state =>
            exact moves_answer hv hc he (iff_of_false (hn ∘ hk.commanded) hn) fun ht ↦ (hn ht).elim
        cases he : c.state with
        | idle => exact hi _ (by rw [he]; rfl) (by rw [commanded, he])
        | waitingUsernamePassword => exact hi _ (by rw [he]; rfl) (by rw [commanded, he])
        | waitingRequest => exact moves_onRequest hv hc he hu <| take_prefix ..
        | waitingConnectResult => exact hm.close _
        | waitingAccept => exact hm.close _
        | established => exact hm.readLoop hc ⟨rfl, rfl, rfl, fun _ ↦ prefix_rfl⟩ he
        | failed =>
          refine hm.same (c := c) hc ⟨rfl, he.symm, rfl, fun hw ↦ ?_⟩
          cases he.symm.trans hw

theorem moves_onWriteFlush (hc : s.connections.lookup c.id = some c) :
    Moves s (s.onWriteFlush c) := by
  have hm := hv.moves
  simp only [onWriteFlush]
  split
  · split
    · refine (foldlRecOn (motive := fun t ↦ Moves s t ∧ t.udpRelays = s.udpRelays) _ _ ⟨hm, rfl⟩
        fun t ht x hx ↦ ?_).1
      unfold flushUdp
      split
      · next he =>
        have hx := hv.lookup_of_mem hx
        have hk := hv.known _ _ hx
        refine ⟨(ht.1.record _).put (c := x) hv hx (by simp [he.1]) hk.commanded ?_
          fun hf ↦ ?_, ht.2⟩
        · change x.id ∈ t.udpRelays → _
          rw [ht.2]
          exact hk.relay
        · cases he.1.symm.trans hf
      · exact ht
    · exact moves_terminate hv _
    · exact hm
  · split
    · split
      · next he =>
        refine (hm.record _).put hv hc (by simp [he]) (fun _ ↦ rfl)
          (fun hr ↦ (hv.not_relay hc (by simp [he]) hr).elim) fun hf ↦ ?_
        cases hf
      · exact hm.close c
      · exact hm
    · exact hm

theorem moves_completeConnectRequest {result : Socks5ConnectResult} {w : Bool}
    (hc : s.connections.lookup c.id = some c) : Moves s (s.completeConnectRequest c result w) := by
  have hk := hv.known _ _ hc
  have hm := hv.moves
  simp only [completeConnectRequest]
  split
  · exact hm
  · next hn =>
    split
    · next hp =>
      simp only [completeTcpConnection]
      split
      · refine (hm.record _).put hv hc hn (fun _ ↦ ?_) (fun hr ↦ ?_)
          fun _ ↦ iff_of_true hp (hk.commanded hp)
        · cases result <;> rfl
        · cases hp.symm.trans (hk.relay hr).2
      · exact hm.closeConnected _
    · simp only [completeUdpConnection]
      split
      · have ht := (hm.record (.connectionAccepted c.id)).put
          (d := { c with state := .established })
          hv hc hn (fun _ ↦ rfl) (fun hr ↦ ⟨rfl, (hk.relay hr).2⟩) fun hf ↦ by cases hf
        exact ⟨⟨ht.relays, ht.lt, ht.known⟩, ht.next, ht.past⟩
      · exact hm.closeConnected _

theorem moves_next (hn : s.nextConnId ≤ id) : Moves s { s with nextConnId := id + 1 } :=
  ⟨⟨fun i hi ↦ Nat.lt_succ_of_lt ((hv.relays i hi).trans_le hn),
    fun i c hc ↦ Nat.lt_succ_of_lt ((hv.lt i c hc).trans_le hn), hv.known⟩,
    Nat.le_succ_of_le hn, hv.moves.past⟩

theorem known_new (hn : s.nextConnId ≤ c.id) (hp : c.proto ≠ some .tcp) :
    Known s.udpRelays c.id c :=
  ⟨rfl, fun h ↦ (hp h).elim, fun hm ↦ absurd (hv.relays _ hm) (Nat.not_lt.2 hn)⟩

theorem moves_onDatagram {r : ℕ} {src : SocketAddress} {data : List UInt8}
    (hn : s.nextConnId ≤ id) : Moves s (s.onDatagram r src data id) := by
  have hm := hv.moves.record (.datagram r src data)
  simp only [onDatagram]
  split
  · exact hm
  · split
    · next c hf =>
      have hc := hv.lookup_of_mem (mem_of_find?_eq_some hf)
      simp only [handleUdpRead]
      split
      · next he =>
        refine (hm.record _).put hv hc (by simp [he]) (fun _ ↦ rfl)
          (fun hr ↦ (hv.not_relay hc (by simp [he]) hr).elim) fun hf ↦ ?_
        cases hf
      · exact hm.same (c := c) hc ⟨rfl, rfl, rfl, fun _ ↦ prefix_rfl⟩
      · split
        · exact hm.record _
        · exact hm
      · exact hm
      · exact hm.destroy _
    · refine (((moves_next hv hn).record _).record _).insert (Nat.lt_succ_self _) ?_ (.inl hn)
      exact known_new (s := s) hv hn (by simp)

theorem moves_of_step {i : Input} (h : step s i = some t) : Moves s t := by
  have hm := hv.moves
  have ho : ∀ {j : ℕ} {f : Connection → Socks5Listener},
      ((s.connections.lookup j).bind fun c ↦ if c.proto = some .udp then none
          else some (f c)) = some t →
        ∃ c, s.connections.lookup c.id = some c ∧ c.proto ≠ some .udp ∧ f c = t := by
    intro j f hj
    obtain ⟨c, hc, hj⟩ := Option.bind_eq_some_iff.1 hj
    split at hj
    · cases hj
    · next hu => exact ⟨c, (hv.known j c hc).id_eq ▸ hc, hu, Option.some.inj hj⟩
  cases i with
  | accept id peer created =>
    simp only [step] at h
    split at h
    · next hi =>
      cases h
      split
      · refine ((moves_next hv hi.1).record _).insert (Nat.lt_succ_self _) ?_ (.inl hi.1)
        exact known_new (s := s) hv hi.1 (by simp)
      · exact moves_next hv hi.1
    · cases h
  | segment id bytes =>
    obtain ⟨c, hc, h⟩ := Option.bind_eq_some_iff.1 h
    split at h
    · cases h
    · cases h
      exact (hm.record _).same (c := c) ((hv.known id c hc).id_eq ▸ hc)
        ⟨rfl, rfl, rfl, fun _ ↦ prefix_append ..⟩
  | eof id =>
    obtain ⟨c, hc, -, rfl⟩ := ho h
    exact hm.same (c := c) hc ⟨rfl, rfl, rfl, fun _ ↦ prefix_rfl⟩
  | readable id env =>
    obtain ⟨c, hc, hu, rfl⟩ := ho h
    exact moves_onReadable hv hc hu
  | error id =>
    obtain ⟨c, -, -, rfl⟩ := ho h
    unfold onError
    split
    · exact moves_terminate hv _
    · exact hm.close c
  | sent id bytes =>
    obtain ⟨c, -, -, rfl⟩ := ho h
    unfold onSent
    split
    · exact hm.record _
    · exact hm
  | writeFlush id =>
    obtain ⟨c, hc, -, rfl⟩ := ho h
    exact moves_onWriteFlush hv hc
  | datagram relay src data id =>
    simp only [step] at h
    split at h
    · next hi =>
      cases h
      exact moves_onDatagram hv hi.1
    · cases h
  | udpTimeout relay =>
    simp only [step] at h
    split at h
    · cases h
      exact moves_terminate hv relay
    · cases h
  | completeConnectRequest id result w =>
    cases h
    cases hc : s.connections.lookup id with
    | none => exact hm
    | some c => exact moves_completeConnectRequest hv ((hv.known id c hc).id_eq ▸ hc)
  | closeConnection id =>
    cases h
    split
    · exact hm.closeConnected id
    · exact hm
  | sendData id n =>
    obtain ⟨c, hc, rfl⟩ := Option.map_eq_some_iff.1 h
    exact hm.same (c := c) ((hv.known id c hc).id_eq ▸ hc) ⟨rfl, rfl, rfl, fun _ ↦ prefix_rfl⟩
  | turnRead id on =>
    obtain ⟨c, hc, rfl⟩ := Option.map_eq_some_iff.1 h
    exact hm.same (c := c) ((hv.known id c hc).id_eq ▸ hc) ⟨rfl, rfl, rfl, fun _ ↦ prefix_rfl⟩
  | sendPending refused =>
    simp only [step] at h
    split at h
    · cases h
      exact moves_sendPendingUdpData hv refused
    · cases h
  | stop places =>
    cases h
    exact moves_stop hv places

end Handlers

theorem valid_start (username password : List UInt8) (address : SocketAddress) :
    Valid (start username password address) :=
  ⟨fun _ h ↦ (by cases h), fun _ _ h ↦ (by cases h), fun _ _ h ↦ (by cases h)⟩

/-- The run lemma: the tables and the protocols fit the stages. -/
theorem valid_of_run {username password : List UInt8} {address : SocketAddress} {ls : List Input}
    (h : Run step anyStep (start username password address) ls s) : Valid s :=
  h.invariant (valid_start ..) fun _ _ _ hv _ hs ↦ (moves_of_step hv hs).toValid

/-- If the connection `id` is still there, it has failed with the protocol `proto`. -/
structure Over (id : ℕ) (proto : Option IpProto) (s : Socks5Listener) : Prop where
  valid : Valid s
  lt : id < s.nextConnId
  failed : ∀ c, s.connections.lookup id = some c → c.state = .failed ∧ c.proto = proto

/-- A connection that has failed is as it was, or gone. -/
theorem over_of_step {i : Input} {p : Option IpProto} (ho : Over id p s) (h : step s i = some t) :
    Over id p t := by
  have hm := moves_of_step ho.valid h
  refine ⟨hm.toValid, ho.lt.trans_le hm.next, fun c' hc' ↦ ?_⟩
  rcases hm.past id c' hc' with hn | ⟨c, hc, ht⟩
  · exact absurd ho.lt (Nat.not_lt.2 hn)
  · obtain ⟨hf, hp⟩ := ho.failed c hc
    exact ⟨(ht.failed hf).1, (ht.failed hf).2.trans hp⟩

/-- The step in which a connection fails settles its protocol. -/
theorem over_of_failure {i : Input} (hv : Valid s) (hc : s.connections.lookup id = some c)
    (hn : c.state ≠ .failed) (h : step s i = some t) (hc' : t.connections.lookup id = some c')
    (hf : c'.state = .failed) :
    Over id c'.proto t ∧ (c'.proto = some .tcp ↔ commanded c = true) := by
  have hm := moves_of_step hv h
  refine ⟨⟨hm.toValid, hm.lt id c' hc', fun x hx ↦ ?_⟩, ?_⟩
  · cases hc'.symm.trans hx
    exact ⟨hf, rfl⟩
  · rcases hm.past id c' hc' with hl | ⟨x, hx, ht⟩
    · exact absurd (hv.lt id c hc) (Nat.not_lt.2 hl)
    · cases hc.symm.trans hx
      exact ht.fails hn hf

end TrustTunnel.Socks5.Changes
