import TrustTunnel.Tls.Reader

namespace TrustTunnel.Tls.Encoding

open Lib.Memory Net.Wire Reader List

def framed (width : ℕ) (data : List UInt8) : List UInt8 := spell width data.length ++ data

@[simp] theorem length_framed (w : ℕ) (d : List UInt8) : (framed w d).length = w + d.length := by
  rw [framed, length_append, length_spell]

def record (ver : ℕ) (body : List UInt8) : List UInt8 :=
  ctHandshake :: (spell 2 ver ++ framed 2 body)

def message (type : UInt8) (body : List UInt8) : List UInt8 := type :: framed 3 body

@[simp] theorem length_record (v : ℕ) (b : List UInt8) :
    (record v b).length = recSize + b.length := by
  simp only [record, length_cons, length_append, length_spell, length_framed, recSize]
  omega

@[simp] theorem length_message (t : UInt8) (b : List UInt8) :
    (message t b).length = hshakeSize + b.length := by
  simp only [message, length_cons, length_framed, hshakeSize]
  omega

structure Version where
  number : ℕ
  le_number : minVersion ≤ number
  number_lt : number < 256 ^ 2

/-- An entry of a server name list. Host names are not empty. -/
structure ServerName where
  nameType : UInt8
  name : List UInt8
  length_lt : name.length < 256 ^ 2
  ne_nil : nameType = sniHostName → name ≠ []

def ServerName.encode (n : ServerName) : List UInt8 := n.nameType :: framed 2 n.name

@[simp] theorem ServerName.length_encode (n : ServerName) :
    n.encode.length = servNameSize + n.name.length := by
  simp only [encode, length_cons, length_framed, servNameSize]
  omega

inductive Extension
  | serverName (names : List ServerName)
    (length_lt : 2 + (names.flatMap ServerName.encode).length < 256 ^ 2)
  | other (type : ℕ) (data : List UInt8) (type_ne : type ≠ extServerName) (type_lt : type < 256 ^ 2)
    (length_lt : data.length < 256 ^ 2)

def hostNameIn (names : List ServerName) : Option (List UInt8) :=
  (names.find? fun n ↦ n.nameType = sniHostName).map ServerName.name

namespace Extension

def type : Extension → ℕ
  | .serverName _ _ => extServerName
  | .other type _ _ _ _ => type

def data : Extension → List UInt8
  | .serverName names _ => framed 2 (names.flatMap ServerName.encode)
  | .other _ data _ _ _ => data

def encode (e : Extension) : List UInt8 := spell 2 e.type ++ framed 2 e.data

def hostName : Extension → Option (List UInt8)
  | .serverName names _ => hostNameIn names
  | .other _ _ _ _ _ => none

@[simp] theorem length_encode (e : Extension) : e.encode.length = extSize + e.data.length := by
  simp only [encode, length_append, length_spell, length_framed, extSize]
  omega

theorem type_lt (e : Extension) : e.type < 256 ^ 2 := by
  cases e with
  | serverName ns h =>
    change extServerName < 256 ^ 2
    decide
  | other type d hn ht hd => exact ht

theorem length_data_lt (e : Extension) : e.data.length < 256 ^ 2 := by
  cases e with
  | serverName names h => rwa [data, length_framed]
  | other type data hn ht hd => exact hd

end Extension

structure ClientHello where
  ver : ℕ
  random : List UInt8
  sessionId : List UInt8
  cipherSuites : List UInt8
  compressionMethods : List UInt8
  extensions : Option (List Extension)
  length_random : random.length = 32
  length_sessionId : sessionId.length ≤ 32
  length_cipherSuites : cipherSuites.length < 256 ^ 2
  length_compressionMethods : compressionMethods.length < 256
  length_extensions : ∀ es ∈ extensions, (es.flatMap Extension.encode).length < 256 ^ 2

namespace ClientHello

def head (c : ClientHello) : List UInt8 :=
  spell 2 c.ver ++ c.random ++ framed 1 c.sessionId ++ framed 2 c.cipherSuites ++
    framed 1 c.compressionMethods

def encodeExtensions (c : ClientHello) : List UInt8 :=
  match c.extensions with
  | none => []
  | some es => framed 2 (es.flatMap Extension.encode)

def encode (c : ClientHello) : List UInt8 := c.head ++ c.encodeExtensions

def hostName (c : ClientHello) : Option (List UInt8) :=
  (c.extensions.getD []).findSome? Extension.hostName

theorem length_head (c : ClientHello) : c.head.length =
    clientHelloSize + c.sessionId.length + 2 + c.cipherSuites.length + 1 +
      c.compressionMethods.length := by
  simp only [head, length_append, length_spell, length_framed, c.length_random, clientHelloSize]
  omega

end ClientHello

structure Certificate where
  der : List UInt8
  chain : List (List UInt8)
  length_der : der.length < 256 ^ 3
  length_all : ((der :: chain).flatMap (framed 3)).length < 256 ^ 3

def Certificate.encode (c : Certificate) : List UInt8 :=
  framed 3 ((c.der :: c.chain).flatMap (framed 3))

section Numbers

variable {m : ℕ → UInt8} {d stop w n : ℕ} {data : List UInt8}

theorem numberAt_spell (h : Holds m d (spell w n)) (hn : n < 256 ^ w) : numberAt m w d = n := by
  rw [numberAt, h.slice_of_length (length_spell w n), number_spell, Nat.mod_eq_of_lt hn]

theorem datalen_framed (h : Holds m d (framed w data)) (hl : data.length < 256 ^ w)
    (hs : d + w + data.length ≤ stop) : datalen m w d stop = some data.length := by
  have hn : numberAt m w d = data.length := numberAt_spell h.left hl
  rw [datalen, hn, if_neg (by omega), if_neg (by omega)]

theorem Holds.framed_data (h : Holds m d (framed w data)) : Holds m (d + w) data := by
  have hr := h.right
  rwa [length_spell] at hr

end Numbers

section Records

variable {mem : ℕ → UInt8} {x509 : X509} {r : TlsReader} {v : View} {ver : ℕ}
  {body : List UInt8}

theorem numberAt_record (hr : ver < 256 ^ 2) (hy : body.length < 256 ^ 2) {d : ℕ}
    (h : Holds mem d (ch :: (spell 2 ver ++ spell 2 body.length))) :
    mem d = ch ∧ numberAt mem 2 (d + 1) = ver ∧ numberAt mem 2 (d + 3) = body.length := by
  refine ⟨h.1, numberAt_spell h.2.left hr, numberAt_spell ?_ hy⟩
  have ht := h.2.right
  rwa [length_spell] at ht

theorem record_eq : record ver body =
    (ctHandshake :: (spell 2 ver ++ spell 2 body.length)) ++ body := by
  simp [record, framed]

theorem recParse_record (vn : Version) (hy : body.length < 256 ^ 2)
    (h : Holds mem v.start (record vn.number body)) (hs : recSize + body.length ≤ v.size) :
    recParse mem r v = .ok ({ r with
      record := ⟨v.start + recSize, body.length⟩
      input := r.input.removePrefix (recSize + body.length) }, ctHandshake) := by
  rw [record_eq] at h
  obtain ⟨ht, hv, hl⟩ := numberAt_record vn.number_lt hy h.left
  have he := vn.le_number
  rw [recParse, hv, hl, if_neg (fun hc ↦ hc.2 ht), if_neg (by omega), if_neg (by omega),
    if_neg (by omega), ht]

theorem recParse_more (vn : Version) (hy : body.length < 256 ^ 2)
    (h : Holds mem v.start ((record vn.number body).take v.size))
    (he : v.size < recSize + body.length) : recParse mem r v = .error .more := by
  have ht : ¬ (2 ≤ v.size ∧ mem v.start ≠ ctHandshake) := by
    rintro ⟨ho, hne⟩
    obtain ⟨n, hn⟩ : ∃ n, v.size = n + 1 := ⟨v.size - 1, by omega⟩
    rw [hn, record, take_succ_cons] at h
    exact hne h.1
  rw [recParse, if_neg ht]
  by_cases hshort : v.size < recSize
  · rw [if_pos hshort]
  · rw [if_neg hshort]
    have hh : (ctHandshake :: (spell 2 vn.number ++ spell 2 body.length)).length =
        recSize := by
      simp [recSize]
    rw [record_eq, take_append, take_of_length_le (by omega)] at h
    rw [(numberAt_record vn.number_lt hy h.left).2.2, if_pos he]

end Records

section Messages

variable {mm : ℕ → UInt8} {x509 : X509} {rr : TlsReader} {v : View} {type : UInt8}
  {body : List UInt8}

theorem hshakeParse_message (hy : body.length < 256 ^ 3)
    (h : Holds mm v.start (message type body)) (he : hshakeSize + body.length ≤ v.size) :
    hshakeParse mm rr v = some ({ rr with
      record := rr.record.removePrefix (hshakeSize + body.length)
      buf := ⟨v.start + hshakeSize, body.length⟩ }, type) := by
  have hl : numberAt mm 3 (v.start + 1) = body.length := numberAt_spell h.2.left hy
  rw [hshakeSize] at he
  rw [hshakeParse, hl, hshakeSize, if_neg (by omega)]
  change (if v.size - 1 < body.length then none else _) = _
  rw [if_neg (by omega), h.1]

theorem helloParse_encode (c : ClientHello) (h : Holds mm v.start c.encode)
    (he : v.size = c.encode.length) :
    helloParse mm rr v = some { rr with
      buf := ⟨v.start + c.head.length, c.encodeExtensions.length⟩ } := by
  have hl : v.size = c.head.length + c.encodeExtensions.length := by
    rw [he, ClientHello.encode, length_append]
  have hd := c.length_head
  have hh := h.left
  rw [ClientHello.head] at hh
  have hn : Holds mm (v.start + clientHelloSize + c.sessionId.length + 2 +
      c.cipherSuites.length) (framed 1 c.compressionMethods) := by
    refine Holds.at_eq hh.right ?_
    simp only [length_append, length_spell, length_framed, c.length_random, clientHelloSize]
    omega
  have hc : Holds mm (v.start + clientHelloSize + c.sessionId.length)
      (framed 2 c.cipherSuites) := by
    refine Holds.at_eq hh.left.right ?_
    simp only [length_append, length_spell, length_framed, c.length_random, clientHelloSize]
    omega
  have hs : Holds mm (v.start + clientHelloSize - 1) (framed 1 c.sessionId) := by
    refine Holds.at_eq hh.left.left.right ?_
    simp only [length_append, length_spell, c.length_random, clientHelloSize]
    omega
  have hi : (mm (v.start + clientHelloSize - 1)).toNat = c.sessionId.length := by
    have hle := c.length_sessionId
    rw [hs.left.1, UInt8.toNat_ofNat']
    exact Nat.mod_eq_of_lt (by omega)
  have hp : v.stop = v.start + c.head.length + c.encodeExtensions.length := by
    rw [View.stop]
    omega
  have hdatalen16 : datalen mm 2 _ v.stop = _ := datalen_framed hc c.length_cipherSuites (by omega)
  have hdatalen8 : datalen mm 1 _ v.stop = _ :=
    datalen_framed hn c.length_compressionMethods (by omega)
  simp only [helloParse, hi, datalen16, datalen8, hdatalen16, hdatalen8]
  rw [if_neg (by omega), if_neg (by omega)]
  have ht : v.start + clientHelloSize + c.sessionId.length + 2 + c.cipherSuites.length + 1 +
      c.compressionMethods.length = v.start + c.head.length := by omega
  rw [ht, show v.stop - (v.start + c.head.length) = c.encodeExtensions.length by omega]

theorem findHostName_names {names : List ServerName} {d fl : ℕ}
    (h : Holds mm d (names.flatMap ServerName.encode))
    (hl : (names.flatMap ServerName.encode).length ≤ fl) :
    ∃ f, findHostName mm fl d (d + (names.flatMap ServerName.encode).length) = some f ∧
      f.map (fun v ↦ slice mm v.start v.size) = hostNameIn names := by
  induction names generalizing d fl with
  | nil =>
    refine ⟨none, ?_, rfl⟩
    cases fl with
    | zero => rfl
    | succ fl =>
      rw [findHostName, if_pos]
      change d + 0 < d + servNameSize
      rw [servNameSize]
      omega
  | cons n names ih =>
    rw [flatMap_cons] at h hl ⊢
    rw [length_append, ServerName.length_encode] at hl ⊢
    have hi : servNameSize = 3 := rfl
    obtain ⟨fl, rfl⟩ : ∃ k, fl = k + 1 := ⟨fl - 1, by omega⟩
    have hn : Holds mm (d + 1) (framed 2 n.name) := h.left.2
    have he : numberAt mm 2 (d + 1) = n.name.length := numberAt_spell hn.left n.length_lt
    rw [findHostName, if_neg (by omega)]
    simp only [he]
    rw [if_neg (by omega), h.left.1]
    by_cases htype : n.nameType = sniHostName
    · refine ⟨some ⟨d + servNameSize, n.name.length⟩, by rw [if_pos htype], ?_⟩
      have hs : slice mm (d + servNameSize) n.name.length = n.name :=
        Holds.slice (Holds.at_eq (Holds.framed_data hn) (by omega))
      simp [hostNameIn, htype, hs]
    · have hr : Holds mm (d + servNameSize + n.name.length)
          (names.flatMap ServerName.encode) := by
        refine Holds.at_eq h.right ?_
        rw [ServerName.length_encode]
        omega
      obtain ⟨f, hf, hm⟩ := @ih _ fl hr (by omega)
      refine ⟨f, ?_, ?_⟩
      · rw [if_neg htype, ← hf]
        congr 1
        omega
      · rw [hm]
        simp [hostNameIn, htype]

theorem extContentParse_data (e : Extension) {d : ℕ} (h : Holds mm d e.data) :
    ∃ f : Option View, f.map (fun v ↦ slice mm v.start v.size) = e.hostName ∧
      extContentParse mm rr e.type d e.data.length =
        ({ rr with tlsHostname := f.getD rr.tlsHostname },
          if f.isSome then .clientHelloSni else .done) := by
  cases e with
  | other type data he ht ha => exact ⟨none, rfl, if_neg he⟩
  | serverName ns hn =>
    have hl : Holds mm d (framed 2 (ns.flatMap ServerName.encode)) := h
    obtain ⟨f, hf, hm⟩ := findHostName_names (Holds.framed_data hl) (Nat.le_refl _)
    refine ⟨f, hm, ?_⟩
    have hd : datalen mm 2 d (d + (Extension.serverName ns hn).data.length) =
        some (ns.flatMap ServerName.encode).length := by
      refine datalen_framed hl (by omega) ?_
      rw [Extension.data, length_framed]
      omega
    refine (if_pos rfl).trans ?_
    rw [extServnameParse, datalen16, hd]
    simp only [hf]
    cases f <;> rfl

theorem extParse_encode (e : Extension) (h : Holds mm rr.buf.start e.encode)
    (hs : extSize + e.data.length ≤ rr.buf.size) :
    ∃ f : Option View, f.map (fun v ↦ slice mm v.start v.size) = e.hostName ∧
      extParse mm rr = ({ rr with
        buf := rr.buf.removePrefix (extSize + e.data.length)
        tlsHostname := f.getD rr.tlsHostname }, if f.isSome then .clientHelloSni else .done) := by
  have ht : numberAt mm 2 rr.buf.start = e.type := numberAt_spell h.left e.type_lt
  have hf : Holds mm (rr.buf.start + 2) (framed 2 e.data) := by
    have hr := h.right
    rwa [length_spell] at hr
  have hl : numberAt mm 2 (rr.buf.start + 2) = e.data.length :=
    numberAt_spell hf.left e.length_data_lt
  have hd : Holds mm (rr.buf.start + extSize) e.data :=
    Holds.at_eq (Holds.framed_data hf) (Nat.add_assoc _ 2 2)
  obtain ⟨f, hm, hc⟩ := extContentParse_data e hd
  refine ⟨f, hm, ?_⟩
  simp only [extParse, ht, hl]
  rw [if_neg (by omega), if_neg (by omega), hc]

theorem tlsParse_extensions {es : List Extension} (hs : rr.state = .clihelExt)
    (h : Holds mm rr.buf.start (es.flatMap Extension.encode))
    (he : rr.buf.size = (es.flatMap Extension.encode).length) (hr : rr.record.size = 0) :
    ∃ n, tlsParse mm x509 rr =
        (n, if (es.findSome? Extension.hostName).isSome then .clientHelloSni else .done) ∧
      ∀ host ∈ es.findSome? Extension.hostName,
        slice mm n.tlsHostname.start n.tlsHostname.size = host := by
  induction es generalizing rr with
  | nil =>
    refine ⟨{ rr with state := .record }, ?_, by simp⟩
    have hu : turn mm x509 rr = ({ rr with state := .hshake }, none) := by
      simp only [turn, hs]
      exact if_pos he
    rw [tlsParse_of_turn hu]
    refine tlsParse_of_return ?_
    simp only [turn]
    rw [if_pos hr]
    rfl
  | cons e es ih =>
    rw [flatMap_cons] at h he
    rw [length_append, Extension.length_encode] at he
    have hp : extSize = 4 := rfl
    obtain ⟨f, hm, ht⟩ := extParse_encode e h.left (by omega)
    cases f with
    | some name =>
      have hi : turn mm x509 rr = ((extParse mm rr).1, some .clientHelloSni) := by
        simp only [turn, hs]
        rw [if_neg (by omega), ht]
        rfl
      refine ⟨(extParse mm rr).1, ?_, ?_⟩
      · rw [tlsParse_of_return hi, findSome?_cons, ← hm]
        rfl
      · intro host hh
        rw [findSome?_cons, ← hm] at hh
        rw [ht]
        exact Option.some.inj hh
    | none =>
      have hd : turn mm x509 rr = ((extParse mm rr).1, none) := by
        simp only [turn, hs]
        rw [if_neg (by omega), ht]
        rfl
      rw [ht, View.removePrefix_of_le (by omega)] at hd
      have hn : e.hostName = none := by rw [← hm]; rfl
      obtain ⟨n, hx, ha⟩ := @ih { rr with
          buf := ⟨rr.buf.start + (extSize + e.data.length),
            rr.buf.size - (extSize + e.data.length)⟩ } hs
        (Holds.at_eq h.right (by rw [Extension.length_encode]))
        (by change rr.buf.size - _ = _; omega) hr
      refine ⟨n, ?_, ?_⟩
      · rw [tlsParse_of_turn hd, findSome?_cons, hn]
        exact hx
      · rw [findSome?_cons, hn]
        exact ha

theorem tlsParse_more (v : Version) (hy : body.length < 256 ^ 2) (hs : rr.state = .record)
    (h : Holds mm rr.input.start ((record v.number body).take rr.input.size))
    (he : rr.input.size < recSize + body.length) : tlsParse mm x509 rr = (rr, .more) := by
  refine tlsParse_of_return ?_
  simp only [turn, hs]
  rw [recParse_more v hy h he]

theorem tlsParse_record (v : Version) (hy : body.length < 256 ^ 2)
    (hs : rr.state = .record) (h : Holds mm rr.input.start (record v.number body))
    (he : recSize + body.length ≤ rr.input.size) :
    tlsParse mm x509 rr = tlsParse mm x509 { rr with
      state := .hshake
      record := ⟨rr.input.start + recSize, body.length⟩
      input := rr.input.removePrefix (recSize + body.length) } := by
  refine tlsParse_of_turn ?_
  simp only [turn, hs]
  rw [recParse_record v hy h he]
  rfl

theorem Holds.record_body {d ver : ℕ} (h : Holds mem d (record ver body)) :
    Holds mem (d + recSize) body := by
  rw [record_eq] at h
  exact Holds.at_eq h.right
    (by simp [recSize])

theorem turn_message (hy : body.length < 256 ^ 3) (hs : rr.state = .hshake)
    (h : Holds mm rr.record.start (message type body))
    (he : hshakeSize + body.length ≤ rr.record.size) :
    turn mm x509 rr = hshakeTurn { rr with
      record := rr.record.removePrefix (hshakeSize + body.length)
      buf := ⟨rr.record.start + hshakeSize, body.length⟩ } type := by
  have hp : hshakeSize = 4 := rfl
  simp only [turn, hs]
  rw [if_neg (by omega), hshakeParse_message hy h he, hs]

theorem Holds.message_body {d : ℕ} (h : Holds mm d (message type body)) :
    Holds mm (d + hshakeSize) body :=
  Holds.at_eq (Holds.framed_data h.2) (Nat.add_assoc d 1 3)

theorem tlsParse_servHello (hy : body.length < 256 ^ 3) (hs : rr.state = .hshake)
    (h : Holds mm rr.record.start (message hsServerHello body))
    (he : hshakeSize + body.length ≤ rr.record.size) :
    tlsParse mm x509 rr = ({ rr with
      record := rr.record.removePrefix (hshakeSize + body.length)
      buf := ⟨rr.record.start + hshakeSize, body.length⟩ }, .servHello) := by
  refine tlsParse_of_return ?_
  rw [turn_message hy hs h he, hs]
  rfl

theorem certsParse_encode (c : Certificate) {n : List UInt8} (h : Holds mm v.start c.encode)
    (he : v.size = c.encode.length) (hn : x509 c.der = some (some n)) :
    certsParse mm x509 rr v = ({ rr with x509SubjectCommonName := n }, .cert) := by
  rw [Certificate.encode, length_framed] at he
  have ha := c.length_all
  have hl := Holds.framed_data h
  rw [flatMap_cons] at hl
  have ho : datalen mm 3 v.start v.stop =
      some ((c.der :: c.chain).flatMap (framed 3)).length :=
    datalen_framed h ha (by rw [View.stop]; omega)
  have hi : datalen mm 3 (v.start + 3)
      (v.start + 3 + ((c.der :: c.chain).flatMap (framed 3)).length) = some c.der.length := by
    refine datalen_framed hl.left c.length_der ?_
    rw [flatMap_cons, length_append, length_framed]
    omega
  have hd : slice mm (v.start + 3 + 3) c.der.length = c.der :=
    Holds.slice (Holds.framed_data hl.left)
  simp only [certsParse, datalen24, ho, hi, hd, hn]

theorem tlsParse_certificate (c : Certificate) {name : List UInt8}
    (hb : c.encode.length < 256 ^ 3) (hst : rr.state = .hshake)
    (h : Holds mm rr.record.start (message hsCertificate c.encode))
    (hs : hshakeSize + c.encode.length ≤ rr.record.size) (hn : x509 c.der = some (some name)) :
    ∃ next, tlsParse mm x509 rr = (next, .cert) ∧ next.x509SubjectCommonName = name := by
  have ht : turn mm x509 rr = ({ rr with
      state := .certs
      record := rr.record.removePrefix (hshakeSize + c.encode.length)
      buf := ⟨rr.record.start + hshakeSize, c.encode.length⟩ }, none) := by
    rw [turn_message hb hst h hs]
    rfl
  rw [tlsParse_of_turn ht]
  refine ⟨{ rr with
    state := .hshake
    record := rr.record.removePrefix (hshakeSize + c.encode.length)
    buf := ⟨rr.record.start + hshakeSize, c.encode.length⟩
    x509SubjectCommonName := name }, tlsParse_of_return ?_, rfl⟩
  simp only [turn]
  rw [certsParse_encode c (Holds.message_body h) rfl hn]

theorem tlsParse_hello (c : ClientHello) (hb : c.encode.length < 256 ^ 3)
    (hst : rr.state = .hshake) (h : Holds mm rr.record.start (message hsClientHello c.encode))
    (hs : rr.record.size = hshakeSize + c.encode.length) :
    ∃ next, tlsParse mm x509 rr = (next, .clientHello) ∧ next.state = .clihelExts ∧
      next.record.size = 0 ∧ next.buf.size = c.encodeExtensions.length ∧
      Holds mm next.buf.start c.encodeExtensions := by
  have hh := Holds.message_body h
  have ht : turn mm x509 rr = ({ rr with
      state := .clihel
      record := rr.record.removePrefix (hshakeSize + c.encode.length)
      buf := ⟨rr.record.start + hshakeSize, c.encode.length⟩ }, none) := by
    rw [turn_message hb hst h (by omega)]
    rfl
  rw [tlsParse_of_turn ht]
  refine ⟨{ rr with
    state := .clihelExts
    record := rr.record.removePrefix (hshakeSize + c.encode.length)
    buf := ⟨rr.record.start + hshakeSize + c.head.length, c.encodeExtensions.length⟩ },
    tlsParse_of_return ?_, rfl, ?_, rfl, hh.right⟩
  · simp only [turn]
    rw [helloParse_encode c hh rfl]
  · rw [View.removePrefix_of_le (by omega)]
    change rr.record.size - _ = 0
    omega

theorem tlsParse_clientHello (v : Version) (c : ClientHello)
    (hy : (message hsClientHello c.encode).length < 256 ^ 2) (ht : rr.state = .record)
    (h : Holds mm rr.input.start (record v.number (message hsClientHello c.encode)))
    (hs : recSize + (message hsClientHello c.encode).length ≤ rr.input.size) :
    ∃ next, tlsParse mm x509 rr = (next, .clientHello) ∧ next.state = .clihelExts ∧
      next.record.size = 0 ∧ next.buf.size = c.encodeExtensions.length ∧
      Holds mm next.buf.start c.encodeExtensions := by
  have hl : c.encode.length < 256 ^ 3 := by
    rw [length_message] at hy
    omega
  rw [tlsParse_record v hy ht h hs]
  exact tlsParse_hello c hl rfl (Holds.record_body h) (length_message hsClientHello _)

theorem tlsParse_clihelExts (c : ClientHello) (hs : rr.state = .clihelExts)
    (hr : rr.record.size = 0) (he : rr.buf.size = c.encodeExtensions.length)
    (h : Holds mm rr.buf.start c.encodeExtensions) :
    ((tlsParse mm x509 rr).2 = .clientHelloSni ↔ c.hostName.isSome) ∧
      ∀ host ∈ c.hostName,
        slice mm (tlsParse mm x509 rr).1.tlsHostname.start
          (tlsParse mm x509 rr).1.tlsHostname.size = host := by
  rw [ClientHello.encodeExtensions] at he h
  rw [ClientHello.hostName]
  cases hes : c.extensions with
  | none =>
    simp only [hes] at he
    have ht : turn mm x509 rr = (rr, some .err) := by
      have hd : datalen mm 2 rr.buf.start rr.buf.stop = none := by
        rw [datalen, if_pos]
        rw [View.stop, he]
        exact Nat.lt_add_of_pos_right (by decide)
      simp only [turn, hs, extsData, datalen16, hd]
    rw [tlsParse_of_return ht]
    exact ⟨by simp, by simp⟩
  | some es =>
    simp only [hes] at he h
    rw [length_framed] at he
    have ht : turn mm x509 rr = ({ rr with
        state := .clihelExt
        buf := ⟨rr.buf.start + 2, (es.flatMap Extension.encode).length⟩ }, none) := by
      have hd : datalen mm 2 rr.buf.start rr.buf.stop = _ :=
        datalen_framed h (c.length_extensions es hes) (by rw [View.stop]; omega)
      simp only [turn, hs, extsData, datalen16, hd]
      rw [View.removePrefix_of_le (by omega), he, Nat.add_sub_cancel_left]
    obtain ⟨n, hx, hn⟩ := @tlsParse_extensions mm x509 { rr with
        state := .clihelExt
        buf := ⟨rr.buf.start + 2, (es.flatMap Extension.encode).length⟩ }
      es rfl (Holds.framed_data h) rfl hr
    rw [tlsParse_of_turn ht, hx, Option.getD_some]
    refine ⟨?_, hn⟩
    cases (es.findSome? Extension.hostName).isSome <;> simp

end Messages

end TrustTunnel.Tls.Encoding
