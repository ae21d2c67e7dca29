import TrustTunnel.Tls.Reader
import TrustTunnel.Traffic.Types

namespace TrustTunnel.Tls.DomainExtractor

open Lib.Memory Reader
open Traffic.Types (DomainExtractorStatus TransportProtocol)

structure DomainExtractorResult where
  status : DomainExtractorStatus := .notFound
  domain : List UInt8 := []
deriving DecidableEq

inductive DomainExtractorPacketDirection
  | outgoing | incoming
deriving DecidableEq

/-- What other libraries decode: certificates and the frames of QUIC packets. -/
structure Decoders where
  x509 : X509
  reassembleInitialCryptoFrames : List UInt8 → Option (List UInt8)

def memory (buffer : List UInt8) : ℕ → UInt8 := ofList buffer 0

/-- The loop of `QuicParser::parse`. The first argument bounds the number of calls. -/
def quicLoop (decoders : Decoders) (mem : ℕ → UInt8) :
    ℕ → TlsReader → TlsReader × DomainExtractorResult
  | 0, reader => (reader, {})
  | fuel + 1, reader =>
    match tlsParse mem decoders.x509 reader with
    | (reader, .clientHelloSni) =>
      (reader, ⟨.found, slice mem reader.tlsHostname.start reader.tlsHostname.size⟩)
    | (reader, .err) | (reader, .more) => (reader, ⟨.wantMore, []⟩)
    | (reader, .done) => (reader, {})
    | (reader, _) => quicLoop decoders mem fuel reader

def quicParse (decoders : Decoders) (reader : TlsReader) (dir : DomainExtractorPacketDirection)
    (buffer : List UInt8) : TlsReader × DomainExtractorResult :=
  if dir ≠ .outgoing then (reader, {})
  else
    match decoders.reassembleInitialCryptoFrames buffer with
    | none => (reader, {})
    | some crypto =>
      quicLoop decoders (memory crypto) (crypto.length + 1)
        { reader with record := ⟨0, crypto.length⟩, state := .hshake }

section TlsParser

inductive TlsParserState
  | idle | serverHello | cert
deriving DecidableEq

structure TlsParser where
  state : TlsParserState := .idle
  reader : TlsReader := {}
  bufferOffset : ℕ := 0
deriving DecidableEq

def parseCertToLookuperResult (reader : TlsReader) : TlsParseResult → DomainExtractorResult
  | .more => ⟨.pass, []⟩
  | .cert => ⟨.found, reader.x509SubjectCommonName⟩
  | .servHello => ⟨.pass, []⟩
  | _ => {}

structure Parsed (α : Type) where
  parser : α
  buffer : List UInt8
  result : DomainExtractorResult

variable (decoders : Decoders) (buffer : List UInt8)

/-- `TPS_IDLE` of `TlsParser::parse`, for outgoing data. -/
def parseIdle (parser : TlsParser) : Parsed TlsParser :=
  let parse := tlsParse (memory buffer) decoders.x509
  let (reader, r) := parse { parser.reader with input := ⟨0, buffer.length⟩ }
  match r with
  | .clientHello =>
    let (reader, r) := parse reader
    if r = .clientHelloSni ∧ reader.tlsHostname.size ≠ 0 then
      ⟨{ parser with reader, bufferOffset := 0 }, [],
        ⟨.found, slice (memory buffer) reader.tlsHostname.start reader.tlsHostname.size⟩⟩
    else ⟨{ state := .serverHello, reader, bufferOffset := 0 }, [], ⟨.pass, []⟩⟩
  | .more => ⟨{ parser with reader, bufferOffset := 0 }, buffer, ⟨.wantMore, []⟩⟩
  | _ => ⟨{ parser with reader, bufferOffset := 0 }, buffer, {}⟩

/-- `TPS_CERT`, for incoming data. -/
def parseCert (parser : TlsParser) : Parsed TlsParser :=
  let (reader, r) := tlsParse (memory buffer) decoders.x509
    { parser.reader with input := ⟨parser.bufferOffset, buffer.length - parser.bufferOffset⟩ }
  ⟨{ parser with reader }, buffer, parseCertToLookuperResult reader r⟩

/-- `TPS_SERVER_HELLO`, for incoming data. It goes on with `TPS_CERT` at the end of a record. -/
def parseServerHello (parser : TlsParser) : Parsed TlsParser :=
  let parse := tlsParse (memory buffer) decoders.x509
  let (reader, r) := parse { input := ⟨0, buffer.length⟩ }
  if r ≠ .servHello then ⟨{ parser with reader }, buffer, ⟨.pass, []⟩⟩
  else
    let bufferOffset := reader.input.start
    let (reader, r) := parse reader
    let parser : TlsParser := { state := .cert, reader, bufferOffset }
    if r ≠ .done then ⟨parser, buffer, parseCertToLookuperResult reader r⟩
    else parseCert decoders buffer parser

def tlsParserParse (parser : TlsParser) (dir : DomainExtractorPacketDirection) :
    Parsed TlsParser :=
  match parser.state, dir with
  | .idle, .outgoing => parseIdle decoders buffer parser
  | .idle, .incoming => ⟨parser, buffer, {}⟩
  | .serverHello, .incoming => parseServerHello decoders buffer parser
  | .cert, .incoming => parseCert decoders buffer parser
  | _, .outgoing => ⟨parser, buffer, ⟨.pass, []⟩⟩

end TlsParser

def isspace (ch : UInt8) : Bool := ch = 32 || (9 ≤ ch && ch ≤ 13)

def isalpha (ch : UInt8) : Bool := (65 ≤ ch && ch ≤ 90) || (97 ≤ ch && ch ≤ 122)

def minMethodLength : ℕ := 3

def maxMethodLength : ℕ := 32

def ascii (text : String) : List UInt8 := text.toList.map fun c ↦ UInt8.ofNat c.toNat

def find (s pattern : List UInt8) (pos : ℕ) : Option ℕ :=
  (List.range (s.length + 1)).find? fun i ↦ decide (pos ≤ i) && pattern.isPrefixOf (s.drop i)

def findFirst (s : List UInt8) (p : UInt8 → Bool) (pos : ℕ) : Option ℕ :=
  (List.range s.length).find? fun i ↦ decide (pos ≤ i) && s[i]?.any p

def methodLength : ℕ → List UInt8 → Option ℕ
  | i, [] => some i
  | i, ch :: rest =>
    if isspace ch then some i
    else if !isalpha ch || i = maxMethodLength then none
    else methodLength (i + 1) rest

def blanks : List UInt8 := ascii " \t"

def hostFromHeader (seek : List UInt8) : Option (List UInt8) := do
  let hostHeaderPos ← find seek (ascii "Host:") 0
  let afterMarker := hostHeaderPos + 5
  if seek.length ≤ afterMarker then none
  else
    let hostStart ← findFirst seek (fun ch ↦ !blanks.contains ch) afterMarker
    let hostEnd ← findFirst seek (fun ch ↦ (ascii "\r\n").contains ch) hostStart
    if hostStart < hostEnd then some ((seek.drop hostStart).take (hostEnd - hostStart)) else none

def hostFromUri (seek : List UInt8) : Option (List UInt8) := do
  let uriStart ← findFirst seek (fun ch ↦ !blanks.contains ch) 0
  if seek[uriStart]? = some 47 then none
  else
    let hostStart ←
      match find seek (ascii "://") uriStart with
      | none => some uriStart
      | some pos => if seek.length ≤ pos + 3 then none else some (pos + 3)
    let hostEnd ← findFirst seek (fun ch ↦ (ascii ":/ \t").contains ch) hostStart
    some ((seek.drop hostStart).take (hostEnd - hostStart))

def httpParse (buffer : List UInt8) : DomainExtractorResult :=
  match methodLength 0 buffer with
  | none => {}
  | some i =>
    if i < minMethodLength then {}
    else
      match hostFromHeader (buffer.drop i) <|> hostFromUri (buffer.drop i) with
      | some host => ⟨.found, host⟩
      | none => {}

inductive Parser
  | tls (parser : TlsParser)
  | http
  | quic (reader : TlsReader)
deriving DecidableEq

def Parser.parse (decoders : Decoders) (dir : DomainExtractorPacketDirection)
    (buffer : List UInt8) : Parser → Parsed Parser
  | .tls parser =>
    let r := tlsParserParse decoders buffer parser dir
    ⟨.tls r.parser, r.buffer, r.result⟩
  | .http => ⟨.http, buffer, httpParse buffer⟩
  | .quic reader =>
    let (reader, result) := quicParse decoders reader dir buffer
    ⟨.quic reader, buffer, result⟩

def produceTable : TransportProtocol → List Parser
  | .tcp => [.tls {}, .http]
  | .udp => [.quic {}]

/-- `DomainExtractor::Context`: the current parser is the first one that is left. -/
structure Context where
  parsers : List Parser
  buffer : List UInt8 := []
deriving DecidableEq

def parseWith (decoders : Decoders) (dir : DomainExtractorPacketDirection) :
    List Parser → List UInt8 → Context × DomainExtractorResult
  | [], buffer => (⟨[], buffer⟩, {})
  | parser :: parsers, buffer =>
    let r := parser.parse decoders dir buffer
    if r.result.status = .notFound then parseWith decoders dir parsers r.buffer
    else (⟨r.parser :: parsers, r.buffer⟩, r.result)

def Context.parse (decoders : Decoders) (context : Context) (dir : DomainExtractorPacketDirection)
    (data : List UInt8) : Context × DomainExtractorResult :=
  parseWith decoders dir context.parsers (context.buffer ++ data)

def printable (ch : UInt8) : Bool := 0x1f < ch && ch < 0x7f

def proceed (decoders : Decoders) (context : Option Context)
    (dir : DomainExtractorPacketDirection) (proto : TransportProtocol) (data : List UInt8) :
    Option Context × DomainExtractorResult :=
  let (context, r) := (context.getD ⟨produceTable proto, []⟩).parse decoders dir data
  if r.status = .found ∧ !r.domain.all printable then (some context, {}) else (some context, r)

end TrustTunnel.Tls.DomainExtractor
