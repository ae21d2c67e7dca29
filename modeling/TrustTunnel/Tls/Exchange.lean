import TrustTunnel.Tls.Segmentation

namespace TrustTunnel.Tls.Exchange

open DomainExtractor Encoding Reader Segmentation

abbrev Chunk : Type := DomainExtractorPacketDirection × List UInt8

def isIncoming (chunk : Chunk) : Bool := decide (chunk.1 = .incoming)

def incomingResults (decoders : Decoders) :
    Option Context → List Chunk → List DomainExtractorResult
  | _, [] => []
  | context, chunk :: chunks =>
    let r := proceed decoders context chunk.1 .tcp chunk.2
    if isIncoming chunk then r.2 :: incomingResults decoders r.1 chunks
    else incomingResults decoders r.1 chunks

def Quiet : List Chunk → Prop
  | [] => True
  | chunk :: chunks =>
    (isIncoming chunk ∨ chunk.2 = [] ∨ chunks.filter isIncoming = []) ∧ Quiet chunks

inductive Settled : Context → Prop
  | tls {parser : TlsParser} {buffer : List UInt8} (h : parser.state ≠ .idle) :
    Settled ⟨[.tls parser, .http], buffer⟩
  | http {buffer : List UInt8} (h : (httpParse buffer).status ≠ .notFound) :
    Settled ⟨[.http], buffer⟩
  | ended {buffer : List UInt8} : Settled ⟨[], buffer⟩

variable (decoders : Decoders) {context : Context} {p : TlsParser} {chunks : List Chunk}
  {d : List UInt8}

theorem proceed_context (dr : DomainExtractorPacketDirection) :
    (proceed decoders (some context) dr .tcp d).1 =
      some (context.parse decoders dr d).1 := by
  simp only [proceed, Option.getD_some]
  split <;> rfl

theorem state_ne_idle (h : p.state ≠ .idle) :
    (tlsParserParse decoders d p .incoming).parser.state ≠ .idle := by
  cases hst : p.state with
  | idle => exact absurd hst h
  | serverHello =>
    rw [tlsParserParse_serverHello decoders hst]
    simp only [parseServerHello]
    split
    · exact h
    · split <;> exact fun hc ↦ by cases hc
  | cert =>
    rw [tlsParserParse_cert decoders hst]
    exact h

theorem settled_http (b : List UInt8) : Settled (parseWith decoders .incoming [.http] b).1 := by
  by_cases h : (httpParse b).status = .notFound
  · simpa [parseWith, Parser.parse, h] using .ended
  · simpa [parseWith, Parser.parse, h] using .http h

theorem Settled.parse (h : Settled context) :
    Settled (context.parse decoders .incoming d).1 := by
  cases h with
  | tls h =>
    simp only [Context.parse, parseWith]
    split
    · exact settled_http decoders _
    · exact .tls (state_ne_idle decoders h)
  | http h => exact settled_http decoders _
  | ended => exact .ended

/-- An outgoing chunk is added to the buffer of the incoming data, so it must be empty. -/
theorem Settled.parse_nil (h : Settled context) :
    (context.parse decoders .outgoing []).1 = context := by
  cases h with
  | @tls p b h =>
    have hp : tlsParserParse decoders b p .outgoing =
        ⟨p, b, ⟨.pass, []⟩⟩ := by
      cases hst : p.state with
      | idle => exact absurd hst h
      | serverHello => simp only [tlsParserParse, hst]
      | cert => simp only [tlsParserParse, hst]
    simp [Context.parse, parseWith, Parser.parse, hp]
  | http h => simp [Context.parse, parseWith, Parser.parse, h]
  | ended => simp [Context.parse, parseWith]

theorem incomingResults_of_sent {c : Option Context} (h : cs.filter isIncoming = []) :
    incomingResults decoders c cs = [] := by
  induction cs generalizing c with
  | nil => rfl
  | cons ck cs ih =>
    obtain ⟨hs, h⟩ := List.forall_mem_cons.1 (List.filter_eq_nil_iff.1 h)
    rw [incomingResults, if_neg hs]
    exact ih (List.filter_eq_nil_iff.2 h)

/-- Once the handshake has settled, outgoing chunks change no result. -/
theorem incomingResults_filter (h : Settled context) (hq : Quiet cs) :
    incomingResults decoders (some context) cs =
      incomingResults decoders (some context) (cs.filter isIncoming) := by
  induction cs generalizing context with
  | nil => rfl
  | cons c cs ih =>
    obtain ⟨hk, hq⟩ := hq
    obtain ⟨dir, d⟩ := c
    cases dir with
    | incoming =>
      rw [List.filter_cons_of_pos rfl]
      simp only [incomingResults, proceed_context]
      rw [ih (h.parse decoders) hq]
    | outgoing =>
      rw [List.filter_cons_of_neg Bool.false_ne_true]
      change incomingResults decoders (proceed decoders (some context) .outgoing .tcp d).1 _ = _
      rcases hk with hc | rfl | hsent
      · cases hc
      · rw [proceed_context, h.parse_nil]
        exact ih h hq
      · rw [hsent, incomingResults_of_sent decoders hsent]
        rfl

/-- After a client hello without a host name, the results for the incoming chunks do not depend on
the outgoing ones if no data is sent before the last incoming chunk. -/
theorem outgoing_chunks_ignored (decoders : Decoders) (version : Version)
    (hello : Encoding.ClientHello) (hbody : (message hsClientHello hello.encode).length < 256 ^ 2)
    (hhost : hello.hostName = none) (cut : List (List UInt8)) (last : List UInt8)
    (hcut : (cut ++ [last]).flatten = helloRecord version hello) (hlast : last ≠ [])
    (chunks : List Chunk) (hquiet : Quiet chunks) :
    incomingResults decoders (feed decoders .outgoing none (cut ++ [last])).1 chunks =
      incomingResults decoders (feed decoders .outgoing none (cut ++ [last])).1
        (chunks.filter isIncoming) := by
  have he : ∀ host ∈ hello.hostName, host.all printable := by
    rw [hhost]
    exact fun host h ↦ by cases h
  obtain ⟨n, hn, hf⟩ := feed_clientHello decoders hbody he hcut hlast
  have hs : Settled ⟨[.tls n, .http], []⟩ := by
    refine .tls ?_
    rw [hn hhost]
    exact fun hc ↦ by cases hc
  rw [hf]
  exact incomingResults_filter decoders hs hquiet

def greeted : Option Context :=
  (feed (certified [99]) .outgoing none
    ([] ++ [helloRecord someVersion (someHello [] (by decide))])).1

theorem outgoing_chunk_after_flight_ignored :
    incomingResults (certified [99]) greeted [(.incoming, someFlight.encode), (.outgoing, [20])] =
      incomingResults (certified [99]) greeted [(.incoming, someFlight.encode)] :=
  outgoing_chunks_ignored (certified [99]) someVersion (someHello [] (by decide)) (by decide) rfl
    [] _ (by simp) (by decide) _ (by simp [Quiet, isIncoming])

/-- A byte that is sent before the flight stands in front of it in the buffer. -/
theorem outgoing_chunk_hides_certificate :
    incomingResults (certified [99]) greeted [(.outgoing, [20]), (.incoming, someFlight.encode)] =
        [⟨.pass, []⟩] ∧
      incomingResults (certified [99]) greeted [(.incoming, someFlight.encode)] =
        [⟨.found, [99]⟩] := by
  decide

end TrustTunnel.Tls.Exchange
