import TrustTunnel.Tls.DomainExtractor
import TrustTunnel.Tls.Encoding

namespace TrustTunnel.Tls.Segmentation

open DomainExtractor Encoding Lib.Memory Reader List

variable {after chunk received : List UInt8} {v : Version}

def feed (decoders : Decoders) (dir : DomainExtractorPacketDirection) :
    Option Context → List (List UInt8) → Option Context × List DomainExtractorResult
  | context, [] => (context, [])
  | context, chunk :: chunks =>
    let r := proceed decoders context dir .tcp chunk
    let rest := feed decoders dir r.1 chunks
    (rest.1, r.2 :: rest.2)

/-- The server hello and the certificate, in a record of its own or in that of the server hello. -/
structure Flight where
  version : Version
  hello : List UInt8
  certificate : Certificate
  rest : List UInt8
  own : Option Version

namespace Flight

variable (f : Flight)

def certificateBody : List UInt8 := message hsCertificate f.certificate.encode ++ f.rest

def helloBody : List UInt8 :=
  message hsServerHello f.hello ++ if f.own.isSome then [] else f.certificateBody

def helloRecord : List UInt8 := record f.version.number f.helloBody

def certificateRecord : List UInt8 := f.own.elim [] fun v ↦ record v.number f.certificateBody

def encode : List UInt8 := f.helloRecord ++ f.certificateRecord

def Fits : Prop := f.helloBody.length < 256 ^ 2 ∧ f.certificateBody.length < 256 ^ 2

instance : Decidable f.Fits := inferInstanceAs (Decidable (_ ∧ _))

end Flight

section Feed

variable (ds : Decoders) {d : DomainExtractorPacketDirection} {ct : Option Context}

theorem feed_append (cs c : List (List UInt8)) :
    feed ds d ct (cs ++ c) =
      ((feed ds d (feed ds d ct cs).1 c).1,
        (feed ds d ct cs).2 ++
          (feed ds d (feed ds d ct cs).1 c).2) := by
  induction cs generalizing ct with
  | nil => rfl
  | cons chunk cs ih => simp only [cons_append, feed, ih]

theorem feed_incomplete {P : List UInt8 → Option Context → Prop} {total : List UInt8}
    {a : DomainExtractorResult}
    (hstep : ∀ received ct chunk, P received ct → received ++ chunk <+: total →
      (received ++ chunk).length < total.length →
        (proceed ds ct d .tcp chunk).2 = a ∧ P (received ++ chunk) (proceed ds ct d .tcp chunk).1)
    (cs : List (List UInt8)) (h : P received ct)
    (htot : received ++ cs.flatten <+: total)
    (hlt : (received ++ cs.flatten).length < total.length) :
    (feed ds d ct cs).2 = replicate cs.length a ∧
      P (received ++ cs.flatten) (feed ds d ct cs).1 := by
  induction cs generalizing received ct with
  | nil => exact ⟨rfl, by simpa [feed] using h⟩
  | cons chunk cs ih =>
    rw [flatten_cons, ← append_assoc] at htot hlt ⊢
    have hpre : received ++ chunk <+: total := (prefix_append _ _).trans htot
    have hlen : (received ++ chunk).length < total.length := by
      rw [length_append] at hlt
      omega
    obtain ⟨hanswer, hnext⟩ := hstep received ct chunk h hpre hlen
    obtain ⟨hrest, hlast⟩ := ih hnext htot hlt
    refine ⟨?_, hlast⟩
    simp only [feed, hanswer, hrest]
    rfl

end Feed

theorem holds_memory_left (a b : List UInt8) : Holds (memory (a ++ b)) 0 a := holds_ofList [] a b 0

theorem holds_memory_right (a b : List UInt8) : Holds (memory (a ++ b)) a.length b := by
  have h := holds_ofList a b [] 0
  rwa [append_nil] at h

theorem holds_memory_take {a b t : List UInt8} (h : b <+: t) :
    Holds (memory (a ++ b)) a.length (t.take b.length) := by
  rw [← prefix_iff_eq_take.1 h]
  exact holds_memory_right a b

section ClientHello

variable (de : Decoders) {context : Option Context} {parser : TlsParser}
  {version : Version} {hello : Encoding.ClientHello} {b : List UInt8}

def helloRecord (version : Version) (hello : Encoding.ClientHello) : List UInt8 :=
  record version.number (message hsClientHello hello.encode)

theorem hostNameIn_ne_nil {names : List ServerName} {host : List UInt8}
    (h : hostNameIn names = some host) : host ≠ [] := by
  rw [hostNameIn, Option.map_eq_some_iff] at h
  obtain ⟨n, hn, rfl⟩ := h
  exact n.ne_nil (by simpa using find?_some hn)

theorem hostName_ne_nil {host : List UInt8} (h : hello.hostName = some host) : host ≠ [] := by
  obtain ⟨e, _, he⟩ := exists_of_findSome?_eq_some h
  cases e with
  | serverName names hnames => exact hostNameIn_ne_nil he
  | other type data hne htype hdata => cases he

def Started (received : List UInt8) (context : Option Context) : Prop :=
  ∃ parser : TlsParser, context.getD ⟨produceTable .tcp, []⟩ = ⟨[.tls parser, .http], received⟩ ∧
    parser.state = .idle ∧ parser.reader.state = .record

theorem started_none : Started [] none := ⟨{}, rfl, rfl, rfl⟩

theorem parseIdle_more (hrec : parser.reader.state = .record)
    (h : (message hsClientHello hello.encode).length < 256 ^ 2)
    (hpre : b <+: helloRecord version hello)
    (hlt : b.length < (helloRecord version hello).length) :
    parseIdle de b parser =
      ⟨{ parser with
          reader := { parser.reader with input := ⟨0, b.length⟩ }
          bufferOffset := 0 }, b, ⟨.wantMore, []⟩⟩ := by
  rw [helloRecord, length_record] at hlt
  have hpar : tlsParse (memory b) de.x509
      { parser.reader with input := ⟨0, b.length⟩ } = (_, .more) :=
    tlsParse_more version h hrec (@holds_memory_take [] b _ hpre) hlt
  simp only [parseIdle, hpar]

theorem parseIdle_whole (hrec : parser.reader.state = .record)
    (h : (message hsClientHello hello.encode).length < 256 ^ 2) :
    ∃ next : TlsParser, (hello.hostName = none → next.state = .serverHello) ∧
      parseIdle de (helloRecord version hello) parser =
        ⟨next, [], hello.hostName.elim ⟨.pass, []⟩ fun host ↦ ⟨.found, host⟩⟩ := by
  have hholds : Holds (memory (helloRecord version hello)) 0 (helloRecord version hello) := by
    simpa using holds_memory_left (helloRecord version hello) []
  obtain ⟨reader, hpar, hst, hrecord, hsize, hexts⟩ :=
    @tlsParse_clientHello (memory (helloRecord version hello)) de.x509
      { parser.reader with input := ⟨0, (helloRecord version hello).length⟩ } version hello h
      hrec hholds (Nat.le_of_eq (length_record _ _).symm)
  obtain ⟨hsni, hname⟩ := @tlsParse_clihelExts _ de.x509 reader hello hst hrecord hsize hexts
  simp only [parseIdle, hpar]
  cases hhost : hello.hostName with
  | none =>
    have hne : (tlsParse (memory (helloRecord version hello)) de.x509 reader).2 ≠
        .clientHelloSni := by
      intro hc
      rw [hhost] at hsni
      exact absurd (hsni.1 hc) (by simp)
    rw [if_neg (fun hc ↦ hne hc.1)]
    exact ⟨_, fun _ ↦ rfl, rfl⟩
  | some host =>
    have hslice := hname host hhost
    have hfd := hsni.2 (by rw [hhost]; rfl)
    have hpos : (tlsParse (memory (helloRecord version hello))
        de.x509 reader).1.tlsHostname.size ≠ 0 := by
      intro hzero
      rw [hzero] at hslice
      exact hostName_ne_nil hhost hslice.symm
    rw [if_pos ⟨hfd, hpos⟩, hslice]
    exact ⟨_, fun hc ↦ (by cases hc), rfl⟩

theorem tlsParserParse_idle (h : parser.state = .idle) :
    tlsParserParse de b parser .outgoing = parseIdle de b parser := by
  simp only [tlsParserParse, h]

theorem proceed_of_tls {dir : DomainExtractorPacketDirection} {r : Parsed TlsParser}
    (hctx : context.getD ⟨produceTable .tcp, []⟩ = ⟨[.tls parser, .http], received⟩)
    (hpar : tlsParserParse de (received ++ chunk) parser dir = r)
    (hst : r.result.status ≠ .notFound)
    (hpr : r.result.status = .found → r.result.domain.all printable) :
    proceed de context dir .tcp chunk = (some ⟨[.tls r.parser, .http], r.buffer⟩, r.result) := by
  simp only [proceed, hctx, Context.parse, parseWith, Parser.parse, hpar]
  rw [if_neg hst, if_neg]
  rintro ⟨hfd, hnot⟩
  rw [hpr hfd] at hnot
  cases hnot

theorem proceed_started (hbody : (message hsClientHello hello.encode).length < 256 ^ 2)
    (h : Started received context) (hpre : received ++ chunk <+: helloRecord version hello)
    (hlt : (received ++ chunk).length < (helloRecord version hello).length) :
    (proceed de context .outgoing .tcp chunk).2 = ⟨.wantMore, []⟩ ∧
      Started (received ++ chunk) (proceed de context .outgoing .tcp chunk).1 := by
  obtain ⟨parser, hctx, hidle, hrec⟩ := h
  have hpar := (tlsParserParse_idle de hidle).trans
    (parseIdle_more de hrec hbody hpre hlt)
  rw [proceed_of_tls de hctx hpar (by simp) (by simp)]
  exact ⟨rfl, _, rfl, hidle, hrec⟩

theorem proceed_complete (hbody : (message hsClientHello hello.encode).length < 256 ^ 2)
    (hpr : ∀ host ∈ hello.hostName, host.all printable) (h : Started received context)
    (hall : received ++ chunk = helloRecord version hello) :
    ∃ next : TlsParser, (hello.hostName = none → next.state = .serverHello) ∧
      proceed de context .outgoing .tcp chunk = (some ⟨[.tls next, .http], []⟩,
        hello.hostName.elim ⟨.pass, []⟩ fun host ↦ ⟨.found, host⟩) := by
  obtain ⟨parser, hctx, hidle, hrec⟩ := h
  obtain ⟨next, hnext, hwhole⟩ := parseIdle_whole de hrec hbody
  have hpar := (tlsParserParse_idle de hidle).trans hwhole
  rw [← hall] at hpar
  refine ⟨next, hnext, ?_⟩
  cases hhost : hello.hostName with
  | none =>
    rw [hhost] at hpar
    exact proceed_of_tls de hctx hpar (by simp) (by simp)
  | some host =>
    rw [hhost] at hpar
    exact proceed_of_tls de hctx hpar (by simp) fun _ ↦ hpr host hhost

/-- However the client hello is cut, its name comes out with the last chunk. -/
theorem feed_clientHello {cs : List (List UInt8)} {last : List UInt8}
    (hy : (message hsClientHello hello.encode).length < 256 ^ 2)
    (hpr : ∀ host ∈ hello.hostName, host.all printable)
    (hcut : (cs ++ [last]).flatten = helloRecord version hello) (hlast : last ≠ []) :
    ∃ next : TlsParser, (hello.hostName = none → next.state = .serverHello) ∧
      feed de .outgoing none (cs ++ [last]) = (some ⟨[.tls next, .http], []⟩,
        replicate cs.length ⟨.wantMore, []⟩ ++
          [hello.hostName.elim ⟨.pass, []⟩ fun host ↦ ⟨.found, host⟩]) := by
  rw [flatten_append, flatten_singleton] at hcut
  have hlen : cs.flatten.length < (helloRecord version hello).length := by
    rw [← hcut, length_append]
    exact Nat.lt_add_of_pos_right (length_pos_of_ne_nil hlast)
  obtain ⟨hresults, hst⟩ := feed_incomplete de (P := Started)
    (fun received context chunk h hpre hlt ↦ proceed_started de hy h hpre hlt) cs
    started_none (hcut ▸ prefix_append _ _) hlen
  obtain ⟨next, hnext, hproceed⟩ := proceed_complete de hy hpr hst hcut
  refine ⟨next, hnext, ?_⟩
  rw [feed_append, hresults]
  simp only [feed, hproceed]

end ClientHello

section ServerHello

variable (dec : Decoders) {f : Flight} {context : Option Context} {parser : TlsParser}
  {br p : List UInt8} {n : List UInt8}

theorem Flight.length_hello_lt (f : Flight) (h : f.Fits) : f.hello.length < 256 ^ 3 := by
  have hlen := h.1
  rw [Flight.helloBody, length_append, length_message] at hlen
  omega

theorem Flight.length_certificate_lt (f : Flight) (h : f.Fits) :
    f.certificate.encode.length < 256 ^ 3 := by
  have hlen := h.2
  rw [Flight.certificateBody, length_append, length_message] at hlen
  omega

theorem tlsParse_helloRecord (hs : f.Fits) (p : List UInt8) :
    ∃ reader, tlsParse (memory (f.helloRecord ++ p)) dec.x509
        { input := ⟨0, (f.helloRecord ++ p).length⟩ } = (reader, .servHello) ∧
      reader.state = .hshake ∧ reader.input.start = f.helloRecord.length ∧
      reader.record.size = (if f.own.isSome then [] else f.certificateBody).length ∧
      Holds (memory (f.helloRecord ++ p)) reader.record.start
        (if f.own.isSome then [] else f.certificateBody) := by
  have hholds := holds_memory_left f.helloRecord p
  have hbody := Holds.record_body hholds
  have hsize : recSize + f.helloBody.length ≤ (f.helloRecord ++ p).length := by
    rw [length_append, Flight.helloRecord, length_record]
    omega
  have hlen : f.helloBody.length = hshakeSize + f.hello.length +
      (if f.own.isSome then [] else f.certificateBody).length := by
    rw [Flight.helloBody, length_append, length_message]
  rw [tlsParse_record f.version hs.1 rfl hholds hsize,
    tlsParse_servHello (f.length_hello_lt hs) rfl hbody.left
        (by change _ ≤ f.helloBody.length; omega)]
  refine ⟨_, rfl, rfl, ?_, ?_, ?_⟩
  · change 0 + (recSize + f.helloBody.length) = _
    rw [Flight.helloRecord, length_record, Nat.zero_add]
  · change (View.removePrefix ⟨_, f.helloBody.length⟩ _).size = _
    rw [View.removePrefix_of_le (by change _ ≤ f.helloBody.length; omega)]
    change f.helloBody.length - _ = _
    omega
  · have hrest := hbody.right
    rw [length_message] at hrest
    exact hrest

theorem parseServerHello_more (hfits : f.Fits) (hpre : br <+: f.helloRecord)
    (hlt : br.length < f.helloRecord.length) :
    ∃ next : TlsParser, next.state = parser.state ∧
      parseServerHello dec br parser = ⟨next, br, ⟨.pass, []⟩⟩ := by
  rw [Flight.helloRecord, length_record] at hlt
  have hpar : tlsParse (memory br) dec.x509 { input := ⟨0, br.length⟩ } =
      (_, .more) :=
    tlsParse_more f.version hfits.1 rfl (@holds_memory_take [] br _ hpre) hlt
  refine ⟨_, ?_, by simp only [parseServerHello, hpar]; exact if_pos (by decide)⟩
  rfl

theorem parseServerHello_own (hfits : f.Fits) (hown : f.own = some v) :
    ∃ next : TlsParser, next.state = .cert ∧ next.reader.state = .record ∧
      next.bufferOffset = f.helloRecord.length ∧
      parseServerHello dec (f.helloRecord ++ p) parser =
        parseCert dec (f.helloRecord ++ p) next := by
  obtain ⟨reader, hpar, hst, hinp, hsize, _⟩ := tlsParse_helloRecord dec hfits p
  have hdone : tlsParse (memory (f.helloRecord ++ p)) dec.x509 reader =
      ({ reader with state := .record }, .done) := by
    refine tlsParse_of_return ?_
    simp only [turn, hst]
    rw [if_pos]
    rw [hsize, hown]
    rfl
  refine ⟨⟨.cert, { reader with state := .record }, reader.input.start⟩, rfl, rfl, hinp, ?_⟩
  simp only [parseServerHello, hpar, hdone]
  rfl

theorem parseServerHello_joint (hs : f.Fits) (hown : f.own = none)
    (h : dec.x509 f.certificate.der = some (some n)) :
    ∃ next : TlsParser, parseServerHello dec (f.helloRecord ++ p) parser =
      ⟨next, f.helloRecord ++ p, ⟨.found, n⟩⟩ := by
  obtain ⟨reader, hpar, hst, _, hsize, hholds⟩ := tlsParse_helloRecord dec hs p
  rw [hown] at hsize hholds
  have hlen : hshakeSize + f.certificate.encode.length ≤ reader.record.size := by
    rw [hsize]
    change _ ≤ f.certificateBody.length
    rw [Flight.certificateBody, length_append, length_message]
    omega
  obtain ⟨next, hcert, hcn⟩ := tlsParse_certificate f.certificate
    (f.length_certificate_lt hs) hst
    (show Holds _ _ f.certificateBody from hholds).left hlen h
  refine ⟨⟨.cert, next, reader.input.start⟩, ?_⟩
  simp only [parseServerHello, hpar, hcert, parseCertToLookuperResult, hcn]
  rfl

theorem parseCert_more {b body : List UInt8} (h : body.length < 256 ^ 2)
    (hrec : parser.reader.state = .record) (hoff : parser.bufferOffset = b.length)
    (hpre : p <+: record v.number body) (hlt : p.length < (record v.number body).length) :
    ∃ next : TlsParser, next.state = parser.state ∧ next.reader.state = .record ∧
      next.bufferOffset = parser.bufferOffset ∧
      parseCert dec (b ++ p) parser = ⟨next, b ++ p, ⟨.pass, []⟩⟩ := by
  have hlen : (b ++ p).length - b.length = p.length := by
    rw [length_append, Nat.add_sub_cancel_left]
  rw [length_record] at hlt
  have hpar : tlsParse (memory (b ++ p)) dec.x509
      { parser.reader with input := ⟨b.length, p.length⟩ } = (_, .more) :=
    tlsParse_more v h hrec (holds_memory_take hpre) hlt
  refine ⟨{ parser with
    reader := { parser.reader with input := ⟨b.length, p.length⟩ } }, rfl, hrec, rfl, ?_⟩
  simp only [parseCert, hoff, hlen, hpar]
  rfl

theorem parseCert_whole (hs : f.Fits) {be : List UInt8}
    (hrec : parser.reader.state = .record) (hoff : parser.bufferOffset = be.length)
    (h : dec.x509 f.certificate.der = some (some n)) :
    ∃ next : TlsParser,
      parseCert dec (be ++ (record v.number f.certificateBody ++ after)) parser =
        ⟨next, be ++ (record v.number f.certificateBody ++ after), ⟨.found, n⟩⟩ := by
  obtain ⟨br, hbuf⟩ : ∃ b, b = be ++ (record v.number f.certificateBody ++ after) := ⟨_, rfl⟩
  have hlen : br.length - parser.bufferOffset =
      recSize + f.certificateBody.length + after.length := by
    rw [hbuf, hoff, length_append, Nat.add_sub_cancel_left, length_append, length_record]
  have hholds : Holds (memory br) be.length (record v.number f.certificateBody) := by
    rw [hbuf]
    exact (holds_memory_right _ _).left
  have hbody := Holds.record_body hholds
  rw [← hbuf]
  have hpar : tlsParse (memory br) dec.x509
      { parser.reader with input := ⟨be.length, br.length - parser.bufferOffset⟩ } = _ :=
    tlsParse_record v hs.2 hrec hholds (by change _ ≤ br.length - _; omega)
  obtain ⟨next, hcert, hcn⟩ := @tlsParse_certificate (memory br) dec.x509 { parser.reader with
      state := .hshake
      record := ⟨be.length + recSize, f.certificateBody.length⟩
      input := View.removePrefix ⟨be.length, br.length - parser.bufferOffset⟩
        (recSize + f.certificateBody.length) } f.certificate n (f.length_certificate_lt hs) rfl
    hbody.left (by
      change _ ≤ f.certificateBody.length
      rw [Flight.certificateBody, length_append, length_message]
      omega) h
  rw [hcert] at hpar
  refine ⟨{ parser with reader := next }, ?_⟩
  rw [← hoff] at hpar
  simp only [parseCert, hpar, parseCertToLookuperResult, hcn]

def Answered (f : Flight) (received : List UInt8) (context : Option Context) : Prop :=
  ∃ parser : TlsParser, context = some ⟨[.tls parser, .http], received⟩ ∧
    ((parser.state = .serverHello ∧ received.length < f.helloRecord.length) ∨
      ((parser.state = .cert ∧ parser.reader.state = .record ∧
        parser.bufferOffset = f.helloRecord.length) ∧
        f.own.isSome ∧ f.helloRecord <+: received))

theorem tlsParserParse_serverHello (h : parser.state = .serverHello) :
    tlsParserParse dec br parser .incoming = parseServerHello dec br parser := by
  simp only [tlsParserParse, h]

theorem tlsParserParse_cert (h : parser.state = .cert) :
    tlsParserParse dec br parser .incoming = parseCert dec br parser := by
  simp only [tlsParserParse, h]

theorem parse_eq_parseCert (hfits : f.Fits) (hown : f.own = some v)
    (hbuf : received ++ chunk = f.helloRecord ++ p)
    (h : parser.state = .serverHello ∨ (parser.state = .cert ∧ parser.reader.state = .record ∧
      parser.bufferOffset = f.helloRecord.length)) :
    ∃ next : TlsParser, next.state = .cert ∧ next.reader.state = .record ∧
      next.bufferOffset = f.helloRecord.length ∧
      tlsParserParse dec (received ++ chunk) parser .incoming =
        parseCert dec (f.helloRecord ++ p) next := by
  rw [hbuf]
  rcases h with hsv | ⟨hcert, hrec, hoff⟩
  · obtain ⟨next, hnext⟩ := parseServerHello_own dec hfits hown
    refine ⟨next, hnext.1, hnext.2.1, hnext.2.2.1, ?_⟩
    rw [tlsParserParse_serverHello dec hsv]
    exact hnext.2.2.2
  · exact ⟨parser, hcert, hrec, hoff, tlsParserParse_cert dec hcert⟩

theorem proceed_answered (hs : f.Fits) (h : Answered f received context)
    (hpre : received ++ chunk <+: f.encode) (hlt : (received ++ chunk).length < f.encode.length) :
    (proceed dec context .incoming .tcp chunk).2 = ⟨.pass, []⟩ ∧
      Answered f (received ++ chunk) (proceed dec context .incoming .tcp chunk).1 := by
  obtain ⟨parser, rfl, hparser⟩ := h
  by_cases hshort : (received ++ chunk).length < f.helloRecord.length
  · have hhello : received ++ chunk <+: f.helloRecord :=
      prefix_of_prefix_length_le hpre (prefix_append _ _) (Nat.le_of_lt hshort)
    rcases hparser with ⟨hsv, _⟩ | ⟨_, _, hwhole⟩
    · obtain ⟨next, hnext, hmore⟩ := parseServerHello_more dec hs hhello hshort
      have hpar := (tlsParserParse_serverHello dec hsv).trans hmore
      rw [proceed_of_tls dec rfl hpar (by simp) (by simp)]
      exact ⟨rfl, next, rfl, .inl ⟨hnext.trans hsv, hshort⟩⟩
    · have hle := hwhole.length_le
      rw [length_append] at hshort
      omega
  · obtain ⟨p, hpart⟩ : f.helloRecord <+: received ++ chunk :=
      prefix_of_prefix_length_le (prefix_append _ _) hpre (Nat.le_of_not_lt hshort)
    cases hown : f.own with
    | none =>
      have henc : f.encode = f.helloRecord := by
        rw [Flight.encode, Flight.certificateRecord, hown]
        exact append_nil _
      rw [henc] at hlt
      exact absurd hlt hshort
    | some v =>
      obtain ⟨next, hcert, hrec, hoff, hpar⟩ :=
        parse_eq_parseCert dec hs hown hpart.symm (hparser.imp And.left And.left)
      have henc : f.encode = f.helloRecord ++ record v.number f.certificateBody := by
        rw [Flight.encode, Flight.certificateRecord, hown]
        rfl
      rw [← hpart, henc] at hpre hlt
      rw [length_append, length_append] at hlt
      obtain ⟨last, hlast, hlastrec, hlastoffset, hmore⟩ := parseCert_more dec hs.2 hrec
        hoff ((prefix_append_right_inj _).1 hpre) (Nat.lt_of_add_lt_add_left hlt)
      rw [proceed_of_tls dec rfl (hpar.trans hmore) (by simp) (by simp), hpart]
      exact ⟨rfl, last, rfl, .inr ⟨⟨hlast.trans hcert, hlastrec, hlastoffset.trans hoff⟩,
        by rw [hown]; rfl, hpart ▸ prefix_append _ _⟩⟩

theorem proceed_certificate (hs : f.Fits)
    (he : dec.x509 f.certificate.der = some (some n)) (hpr : n.all printable)
    (h : Answered f received context) (hall : received ++ chunk = f.encode ++ after) :
    (proceed dec context .incoming .tcp chunk).2 = ⟨.found, n⟩ := by
  obtain ⟨parser, rfl, hparser⟩ := h
  rw [Flight.encode, Flight.certificateRecord, append_assoc] at hall
  cases hown : f.own with
  | none =>
    rcases hparser with ⟨hsv, _⟩ | ⟨_, hsome, _⟩
    · obtain ⟨next, hjoint⟩ := parseServerHello_joint dec hs hown he
      have hpar := (tlsParserParse_serverHello dec hsv).trans hjoint
      rw [hown] at hall
      rw [proceed_of_tls dec rfl (hall ▸ hpar) (by simp) fun _ ↦ hpr]
    · rw [hown] at hsome
      cases hsome
  | some v =>
    rw [hown] at hall
    obtain ⟨next, _, hrec, hoff, hpar⟩ :=
      parse_eq_parseCert dec hs hown hall (hparser.imp And.left And.left)
    obtain ⟨last, hwhole⟩ := parseCert_whole dec hs hrec hoff he
    rw [proceed_of_tls dec rfl (hpar.trans hwhole) (by simp) fun _ ↦ hpr]

/-- And so does the name of the certificate. -/
theorem feed_flight (hs : f.Fits) {next : TlsParser} (hnext : next.state = .serverHello)
    (hname : dec.x509 f.certificate.der = some (some n)) (hpr : n.all printable)
    {cs : List (List UInt8)} {last : List UInt8}
    (hcut : (cs ++ [last]).flatten = f.encode ++ after)
    (hlen : cs.flatten.length < f.encode.length) :
    (feed dec .incoming (some ⟨[.tls next, .http], []⟩) (cs ++ [last])).2 =
      replicate cs.length ⟨.pass, []⟩ ++ [⟨.found, n⟩] := by
  have hstart : Answered f [] (some ⟨[.tls next, .http], []⟩) := by
    refine ⟨next, rfl, .inl ⟨hnext, ?_⟩⟩
    rw [Flight.helloRecord, length_record, recSize]
    exact Nat.add_pos_left (by decide) _
  rw [flatten_append, flatten_singleton] at hcut
  have hpre : cs.flatten <+: f.encode :=
    prefix_of_prefix_length_le (hcut ▸ prefix_append _ _) (prefix_append _ _) (Nat.le_of_lt hlen)
  obtain ⟨hresults, hans⟩ := feed_incomplete dec (P := Answered f)
    (fun received context chunk h hpre hlt ↦ proceed_answered dec hs h hpre hlt) cs
    hstart hpre hlen
  have hfd := proceed_certificate dec hs hname hpr hans hcut
  rw [feed_append, hresults]
  simp only [feed, hfd]

end ServerHello

/-- However the data is cut, the last chunk of a client hello gives the host name or passes; then
the chunks of the flight of the server pass until the certificate is complete, which gives its
common name. -/
theorem domain_found_for_every_cut (decoders : Decoders) (version : Version)
    (hello : Encoding.ClientHello) (hbody : (message hsClientHello hello.encode).length < 256 ^ 2)
    (chunks : List (List UInt8)) (last : List UInt8)
    (hcut : (chunks ++ [last]).flatten = helloRecord version hello)
    (hchunks : ∀ chunk ∈ chunks ++ [last], chunk ≠ []) :
    (∀ host, hello.hostName = some host → host.all printable →
      (feed decoders .outgoing none (chunks ++ [last])).2 =
        List.replicate chunks.length ⟨.wantMore, []⟩ ++ [⟨.found, host⟩]) ∧
    (hello.hostName = none →
      (feed decoders .outgoing none (chunks ++ [last])).2 =
        List.replicate chunks.length ⟨.wantMore, []⟩ ++ [⟨.pass, []⟩] ∧
      ∀ (f : Flight) (name : List UInt8), f.Fits →
        decoders.x509 f.certificate.der = some (some name) → name.all printable →
        ∀ (answers : List (List UInt8)) (final after : List UInt8),
          (answers ++ [final]).flatten = f.encode ++ after →
          answers.flatten.length < f.encode.length →
          (feed decoders .incoming (feed decoders .outgoing none (chunks ++ [last])).1
              (answers ++ [final])).2 =
            List.replicate answers.length ⟨.pass, []⟩ ++ [⟨.found, name⟩]) := by
  have hl : last ≠ [] := hchunks last (by simp)
  constructor
  · intro host hho hp
    have hall : ∀ h ∈ hello.hostName, h.all printable := by
      intro h hh
      rw [hho, Option.mem_some_iff] at hh
      exact hh ▸ hp
    obtain ⟨next, _, hf⟩ := feed_clientHello decoders hbody hall hcut hl
    rw [hf, hho]
    rfl
  · intro he
    have hall : ∀ h ∈ hello.hostName, h.all printable := by
      intro h hh
      rw [he] at hh
      cases hh
    obtain ⟨next, hnext, hf⟩ := feed_clientHello decoders hbody hall hcut hl
    rw [hf, he]
    refine ⟨rfl, fun f name hs hn hp answers final after ht hlen ↦ ?_⟩
    exact feed_flight decoders hs (hnext he) hn hp ht hlen

def someVersion : Version := ⟨0x0303, by decide, by decide⟩

def someHello (extensions : List Extension)
    (h : (extensions.flatMap Extension.encode).length < 256 ^ 2) : Encoding.ClientHello where
  ver := 0x0303
  random := List.replicate 32 0
  sessionId := []
  cipherSuites := [0, 47]
  compressionMethods := [0]
  extensions := some extensions
  length_random := rfl
  length_sessionId := by decide
  length_cipherSuites := by decide
  length_compressionMethods := by decide
  length_extensions := fun es hes ↦ by
    rw [Option.mem_some_iff] at hes
    exact hes ▸ h

def someServerName : Extension :=
  .serverName [⟨sniHostName, [97, 46, 98], by decide, by decide⟩] (by decide)

def someFlight : Flight where
  version := someVersion
  hello := [3, 3]
  certificate := ⟨[48], [], by decide, by decide⟩
  rest := []
  own := some someVersion

def certified (name : List UInt8) : Decoders := ⟨fun _ ↦ some (some name), fun _ ↦ none⟩

/-- A host name in two chunks, and a common name in two chunks. -/
theorem domain_found_for_cuts :
    (feed (certified [99]) .outgoing none
      ([(helloRecord someVersion (someHello [someServerName] (by decide))).take 7] ++
        [(helloRecord someVersion (someHello [someServerName] (by decide))).drop 7])).2 =
      [⟨.wantMore, []⟩, ⟨.found, [97, 46, 98]⟩] ∧
    (feed (certified [99]) .incoming
      (feed (certified [99]) .outgoing none
        ([] ++ [helloRecord someVersion (someHello [] (by decide))])).1
      ([someFlight.encode.take 12] ++ [someFlight.encode.drop 12])).2 =
      [⟨.pass, []⟩, ⟨.found, [99]⟩] := by
  have hcut : ∀ (n : ℕ) (data : List UInt8), ([data.take n] ++ [data.drop n]).flatten = data := by
    simp
  constructor
  · exact (domain_found_for_every_cut (certified [99]) someVersion _ (by decide) _ _ (hcut _ _)
      (by decide)).1 [97, 46, 98] rfl (by decide)
  · refine ((domain_found_for_every_cut (certified [99]) someVersion (someHello [] (by decide))
      (by decide) [] _ (by simp) (by decide)).2 rfl).2 someFlight [99] (by decide) rfl (by decide)
      _ _ [] ?_ (by decide)
    rw [hcut, append_nil]

/-- A common name that is not in ASCII is found and thrown away. -/
theorem common_name_not_ascii :
    (feed (certified [0xc3, 0xa9]) .incoming
      (feed (certified [0xc3, 0xa9]) .outgoing none
        [helloRecord someVersion (someHello [] (by decide))]).1 [someFlight.encode]).2 =
      [⟨.notFound, []⟩] := by
  decide

end TrustTunnel.Tls.Segmentation
