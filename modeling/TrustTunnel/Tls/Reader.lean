import TrustTunnel.Lib.Memory
import TrustTunnel.Net.Wire

namespace TrustTunnel.Tls.Reader

open Lib.Memory Net.Wire

inductive TlsParseResult
  | err | more | clientHello | clientHelloSni | servHello | cert | done
deriving DecidableEq

inductive ReaderState
  | record | hshake | clihel | clihelExts | clihelExt | certs
deriving DecidableEq

/-- The views are views of the memory that holds the input. -/
structure TlsReader where
  state : ReaderState := .record
  input : View := ⟨0, 0⟩
  record : View := ⟨0, 0⟩
  buf : View := ⟨0, 0⟩
  tlsHostname : View := ⟨0, 0⟩
  x509SubjectCommonName : List UInt8 := []
deriving DecidableEq

/-- A decoded certificate: none, one without a subject common name, or its name. -/
abbrev X509 := List UInt8 → Option (Option (List UInt8))

def ctHandshake : UInt8 := 22

def hsClientHello : UInt8 := 1

def hsServerHello : UInt8 := 2

def hsCertificate : UInt8 := 11

def hsServerKeyExchange : UInt8 := 12

def hsCertificateRequest : UInt8 := 13

def hsServerHelloDone : UInt8 := 14

def extServerName : ℕ := 0

def sniHostName : UInt8 := 0

def recSize : ℕ := 5

def hshakeSize : ℕ := 4

def clientHelloSize : ℕ := 35

def extSize : ℕ := 4

def servNameSize : ℕ := 3

def minVersion : ℕ := 0x0301

section Parse

variable (mem : ℕ → UInt8)

def numberAt (width d : ℕ) : ℕ := number (slice mem d width)

/-- The length in front of data that has to end before `stop`. -/
def datalen (width d stop : ℕ) : Option ℕ :=
  if stop < d + width then none
  else if stop < d + width + numberAt mem width d then none
  else some (numberAt mem width d)

def datalen8 : ℕ → ℕ → Option ℕ := datalen mem 1

def datalen16 : ℕ → ℕ → Option ℕ := datalen mem 2

def datalen24 : ℕ → ℕ → Option ℕ := datalen mem 3

/-- The type of the record, or the result of `tls_parse`. -/
def recParse (reader : TlsReader) (data : View) : Except TlsParseResult (TlsReader × UInt8) :=
  if 2 ≤ data.size ∧ mem data.start ≠ ctHandshake then .error .err
  else if data.size < recSize then .error .more
  else if data.size < recSize + numberAt mem 2 (data.start + 3) then .error .more
  else if numberAt mem 2 (data.start + 1) < minVersion then .error .err
  else
    let n := numberAt mem 2 (data.start + 3)
    .ok ({ reader with
      record := ⟨data.start + recSize, n⟩
      input := reader.input.removePrefix (recSize + n) }, mem data.start)

/-- The type of the message. A message may end up to three bytes behind the record. -/
def hshakeParse (reader : TlsReader) (data : View) : Option (TlsReader × UInt8) :=
  if data.size < hshakeSize then none
  else
    let n := numberAt mem 3 (data.start + 1)
    if data.size - 1 < n then none
    else
      some ({ reader with
        record := reader.record.removePrefix (hshakeSize + n)
        buf := ⟨data.start + hshakeSize, n⟩ }, mem data.start)

def helloParse (reader : TlsReader) (data : View) : Option TlsReader :=
  if data.size < clientHelloSize then none
  else
    let sessionId := data.start + clientHelloSize
    let len := (mem (sessionId - 1)).toNat
    if data.stop < sessionId + len then none
    else
      let d := sessionId + len
      match datalen16 mem d data.stop with
      | none => none
      | some size =>
        let d := d + 2 + size
        match datalen8 mem d data.stop with
        | none => none
        | some size =>
          let d := d + 1 + size
          some { reader with buf := ⟨d, data.stop - d⟩ }

/-- The loop of `ext_servname_parse`. The first argument bounds the number of names. -/
def findHostName : ℕ → ℕ → ℕ → Option (Option View)
  | 0, _, _ => some none
  | fuel + 1, d, stop =>
    if stop < d + servNameSize then some none
    else
      let n := numberAt mem 2 (d + 1)
      if stop < d + servNameSize + n then none
      else if mem d = sniHostName then some (some ⟨d + servNameSize, n⟩)
      else findHostName fuel (d + servNameSize + n) stop

def extServnameParse (reader : TlsReader) (data len : ℕ) : TlsReader × TlsParseResult :=
  match datalen16 mem data (data + len) with
  | none => (reader, .err)
  | some size =>
    match findHostName mem size (data + 2) (data + 2 + size) with
    | none => (reader, .err)
    | some none => (reader, .done)
    | some (some name) => ({ reader with tlsHostname := name }, .clientHelloSni)

def extContentParse (reader : TlsReader) (type data len : ℕ) : TlsReader × TlsParseResult :=
  if type = extServerName then extServnameParse mem reader data len else (reader, .done)

def extParse (reader : TlsReader) : TlsReader × TlsParseResult :=
  let data := reader.buf
  if data.size < extSize then (reader, .err)
  else
    let n := numberAt mem 2 (data.start + 2)
    if data.size < extSize + n then (reader, .err)
    else
      let r := extContentParse mem reader (numberAt mem 2 data.start) (data.start + extSize) n
      ({ r.1 with buf := data.removePrefix (extSize + n) }, r.2)

def extsData (reader : TlsReader) (data : View) : Option TlsReader :=
  match datalen16 mem data.start data.stop with
  | none => none
  | some _ => some { reader with buf := data.removePrefix 2 }

def certsParse (x509 : X509) (reader : TlsReader) (data : View) : TlsReader × TlsParseResult :=
  match datalen24 mem data.start data.stop with
  | none => (reader, .err)
  | some size =>
    let d := data.start + 3
    match datalen24 mem d (d + size) with
    | none => (reader, .err)
    | some size =>
      match x509 (slice mem (d + 3) size) with
      | none => (reader, .err)
      | some none => ({ reader with x509SubjectCommonName := [] }, .err)
      | some (some name) => ({ reader with x509SubjectCommonName := name }, .cert)

def hshakeTurn (reader : TlsReader) (type : UInt8) : TlsReader × Option TlsParseResult :=
  if type = hsClientHello then ({ reader with state := .clihel }, none)
  else if type = hsServerHello then ({ reader with state := .hshake }, some .servHello)
  else if type = hsCertificate then ({ reader with state := .certs }, none)
  else if type = hsServerKeyExchange ∨ type = hsCertificateRequest ∨ type = hsServerHelloDone then
    ({ reader with state := .hshake }, some .done)
  else (reader, some .err)

/-- One turn of the loop of `tls_parse`, and the result if it returns. -/
def turn (x509 : X509) (reader : TlsReader) : TlsReader × Option TlsParseResult :=
  match reader.state with
  | .record =>
    match recParse mem reader reader.input with
    | .error r => (reader, some r)
    | .ok (reader, type) =>
      if type = ctHandshake then ({ reader with state := .hshake }, none) else (reader, some .err)
  | .hshake =>
    if reader.record.size = 0 then ({ reader with state := .record }, some .done)
    else
      match hshakeParse mem reader reader.record with
      | none => (reader, some .err)
      | some (reader, type) => hshakeTurn reader type
  | .clihel =>
    match helloParse mem reader reader.buf with
    | none => (reader, some .err)
    | some reader => ({ reader with state := .clihelExts }, some .clientHello)
  | .clihelExts =>
    match extsData mem reader reader.buf with
    | none => (reader, some .err)
    | some reader => ({ reader with state := .clihelExt }, none)
  | .clihelExt =>
    if reader.buf.size = 0 then ({ reader with state := .hshake }, none)
    else
      match (extParse mem reader).2 with
      | .done => ((extParse mem reader).1, none)
      | r => ((extParse mem reader).1, some r)
  | .certs =>
    match certsParse mem x509 reader reader.buf with
    | (reader, .cert) => ({ reader with state := .hshake }, some .cert)
    | (reader, _) => (reader, some .err)

def loop (x509 : X509) : ℕ → TlsReader → Option (TlsReader × TlsParseResult)
  | 0, _ => none
  | fuel + 1, reader =>
    match turn mem x509 reader with
    | (reader, some r) => some (reader, r)
    | (reader, none) => loop x509 fuel reader

def rank (reader : TlsReader) : ℕ :=
  match reader.state with
  | .record => 3
  | .hshake => 2
  | .clihel | .certs => 1
  | .clihelExts => reader.buf.size + 4
  | .clihelExt => reader.buf.size + 3

def tlsParse (x509 : X509) (reader : TlsReader) : TlsReader × TlsParseResult :=
  (loop mem x509 (rank reader) reader).getD (reader, .err)

end Parse

section Loop

variable {m : ℕ → UInt8} {x509 : X509} {reader reader' : TlsReader}

theorem size_removePrefix_lt {v : View} {n : ℕ} (h : n ≤ v.size) (hn : 0 < n) :
    (v.removePrefix n).size < v.size := by
  rw [View.removePrefix_of_le h]
  change v.size - n < v.size
  omega

theorem buf_extsData {d : View} (h : extsData m reader d = some reader') :
    reader'.buf.size < d.size := by
  simp only [extsData, datalen16, datalen] at h
  split at h
  · cases h
  · next hl =>
    split at hl
    · cases hl
    · next he =>
      rw [Option.some.injEq] at h
      subst h
      refine size_removePrefix_lt ?_ (by decide)
      simp only [View.stop] at he
      omega

theorem state_extServnameParse (d l : ℕ) :
    (extServnameParse m reader d l).1.state = reader.state := by
  simp only [extServnameParse]
  split
  · rfl
  · split <;> rfl

theorem state_extContentParse (t d l : ℕ) :
    (extContentParse m reader t d l).1.state = reader.state := by
  rw [extContentParse]
  split
  · exact state_extServnameParse _ _
  · rfl

theorem state_extParse : (extParse m reader).1.state = reader.state := by
  simp only [extParse]
  split
  · rfl
  split
  · rfl
  · exact state_extContentParse _ _ _

theorem buf_extParse (h : (extParse m reader).2 = .done) :
    (extParse m reader).1.buf.size < reader.buf.size := by
  simp only [extParse] at h ⊢
  split at h
  · cases h
  next hs =>
  split at h
  · cases h
  next hd =>
  rw [if_neg hs, if_neg hd]
  exact size_removePrefix_lt (Nat.not_lt.1 hd) (by rw [extSize]; omega)

theorem rank_hshakeTurn {t : UInt8} (h : (hshakeTurn reader t).2 = none) :
    rank (hshakeTurn reader t).1 = 1 := by
  simp only [hshakeTurn] at h ⊢
  by_cases hcli : t = hsClientHello
  · rw [if_pos hcli, rank]
  by_cases hsv : t = hsServerHello
  · rw [if_neg hcli, if_pos hsv] at h
    cases h
  by_cases hcert : t = hsCertificate
  · rw [if_neg hcli, if_neg hsv, if_pos hcert, rank]
  rw [if_neg hcli, if_neg hsv, if_neg hcert] at h
  split at h <;> cases h

theorem rank_turn (h : turn m x509 reader = (reader', none)) : rank reader' < rank reader := by
  simp only [turn] at h
  cases hst : reader.state with
  | record =>
    simp only [hst] at h
    split at h
    · cases h
    · split at h
      · cases h
        simp only [rank, hst]
        decide
      · cases h
  | hshake =>
    simp only [hst] at h
    split at h
    · cases h
    split at h
    · cases h
    · have hr := rank_hshakeTurn (congrArg Prod.snd h)
      rw [h] at hr
      rw [hr]
      simp only [rank, hst]
      decide
  | clihel =>
    simp only [hst] at h
    split at h <;> cases h
  | clihelExts =>
    simp only [hst] at h
    split at h
    · cases h
    · next he =>
      have hb := buf_extsData he
      cases h
      simp only [rank, hst]
      omega
  | clihelExt =>
    simp only [hst] at h
    split at h
    · cases h
      simp only [rank, hst]
      omega
    split at h
    · next hd =>
      have hb := buf_extParse hd
      cases h
      simp only [rank, state_extParse, hst]
      omega
    · cases h
  | certs =>
    simp only [hst] at h
    split at h <;> cases h

theorem loop_of_turn {f : ℕ} (h : turn m x509 reader = (reader', none)) :
    loop m x509 (f + 1) reader = loop m x509 f reader' := by
  rw [loop, h]

theorem loop_of_return {f : ℕ} {r : TlsParseResult} (h : turn m x509 reader = (reader', some r)) :
    loop m x509 (f + 1) reader = some (reader', r) := by
  rw [loop, h]

theorem rank_pos (reader : TlsReader) : 0 < rank reader := by
  rw [rank]
  split <;> omega

theorem loop_enough {fl : ℕ} (h : rank rr ≤ fl) :
    loop mem x509 fl rr = some (tlsParse mem x509 rr) := by
  suffices hs : ∀ fl rr, rank rr ≤ fl → ∃ p, ∀ f, rank rr ≤ f →
      loop mem x509 f rr = some p by
    obtain ⟨p, hp⟩ := hs fl rr h
    rw [tlsParse, hp fl h, hp _ (Nat.le_refl _), Option.getD_some]
  intro fl
  induction fl with
  | zero =>
    intro rr h
    have ho := rank_pos rr
    omega
  | succ fl ih =>
    intro rr h
    obtain ⟨⟨n, rt⟩, ht⟩ : ∃ p, turn mem x509 rr = p := ⟨_, rfl⟩
    cases rt with
    | some r =>
      refine ⟨(n, r), fun f h' ↦ ?_⟩
      have ho := rank_pos rr
      obtain ⟨k, rfl⟩ : ∃ k, f = k + 1 := ⟨f - 1, by omega⟩
      exact loop_of_return ht
    | none =>
      have hl := rank_turn ht
      obtain ⟨p, hp⟩ := ih n (by omega)
      refine ⟨p, fun f h' ↦ ?_⟩
      obtain ⟨k, rfl⟩ : ∃ k, f = k + 1 := ⟨f - 1, by omega⟩
      rw [loop_of_turn ht]
      exact hp k (by omega)

theorem tlsParse_of_return {r : TlsParseResult} (h : turn m x509 reader = (reader', some r)) :
    tlsParse m x509 reader = (reader', r) := by
  have he : loop m x509 (rank reader + 1) reader = some (tlsParse m x509 reader) :=
    loop_enough (Nat.le_succ _)
  rw [loop_of_return h] at he
  exact (Option.some.inj he).symm

theorem tlsParse_of_turn (h : turn m x509 reader = (reader', none)) :
    tlsParse m x509 reader = tlsParse m x509 reader' := by
  have he : loop m x509 (rank reader + 1) reader = some (tlsParse m x509 reader) :=
    loop_enough (Nat.le_succ _)
  rw [loop_of_turn h, loop_enough (Nat.le_of_lt (rank_turn h))] at he
  exact (Option.some.inj he).symm

end Loop

end TrustTunnel.Tls.Reader
