import TrustTunnel.Connector.Single

namespace TrustTunnel.Connector.Fallbackable

open Session.Types Single

inductive Child
  | main
  | fallback
deriving DecidableEq, Repr

def Child.other : Child → Child
  | .main => .fallback
  | .fallback => .main

theorem Child.eq_or_eq_other (a b : Child) : a = b ∨ a = b.other := by
  cases a with
  | main =>
    cases b with
    | main => exact .inl rfl
    | fallback => exact .inr rfl
  | fallback =>
    cases b with
    | main => exact .inr rfl
    | fallback => exact .inl rfl

/-- The task of `make_deferred_handle_task`; `ready` is the pointer it was given, `none` if it was
null. -/
structure ResultTask where
  ready : Option Child
  result : EndpointConnectorResult
deriving DecidableEq, Repr

structure ConnectorInfo where
  connector : Option SingleUpstreamConnector := none
  hasResult : Bool := false
  resultTask : Option ResultTask := none
deriving DecidableEq, Repr

inductive Record
  | started (child : Child)
  | processed (child : Child) (result : EndpointConnectorResult)
  | toldToDisconnect (child : Child)
  | raised (result : EndpointConnectorResult)
  | disconnected
deriving DecidableEq, Repr

structure FallbackableUpstreamConnector where
  main : ConnectorInfo
  fallback : ConnectorInfo
  tried : Bool := false
  delayTask : Bool := false
  trace : List Record := []
deriving DecidableEq, Repr

namespace FallbackableUpstreamConnector

section Calls

variable (f : FallbackableUpstreamConnector)

def record (records : List Record) : FallbackableUpstreamConnector :=
  { f with trace := f.trace ++ records }

def info : Child → ConnectorInfo
  | .main => f.main
  | .fallback => f.fallback

def setInfo (child : Child) (info : ConnectorInfo) : FallbackableUpstreamConnector :=
  match child with
  | .main => { f with main := info }
  | .fallback => { f with fallback := info }

def pointer (child : Child) : Option Child :=
  if (f.info child).connector.isSome then some child else none

def tell (child : Child) : FallbackableUpstreamConnector :=
  match (f.info child).connector with
  | none => f
  | some c =>
    (f.setInfo child { f.info child with connector := some c.disconnect }).record
      [.toldToDisconnect child]

def isUpstream : EndpointConnectorResult → Bool
  | .upstream _ => true
  | .error _ => false

def handleConnectResult (ready : Option Child) (result : EndpointConnectorResult) :
    FallbackableUpstreamConnector :=
  let child := if f.pointer .main = ready then Child.main else .fallback
  let f := f.record [.processed child result]
  let f := if isUpstream result then f.tell child.other else f
  let f := f.setInfo child { hasResult := true }
  if isUpstream result || f.main.hasResult && f.fallback.hasResult then
    { main := {}, fallback := {}, trace := f.trace ++ [.raised result] }
  else if !f.tried then { f with delayTask := true }
  else f

/-- `connect` of a connector that is there; `init` and `openSession` are the answers of its
upstream. -/
def startChild (child : Child) (init openSession : Bool) :
    Option VpnError × FallbackableUpstreamConnector :=
  match (f.info child).connector with
  | none => (none, f)
  | some c =>
    let r := c.connect init openSession
    (r.1, (f.setInfo child { f.info child with connector := some r.2 }).record [.started child])

def connect (init openSession : Bool) : FallbackableUpstreamConnector :=
  let r := f.startChild .main init openSession
  match r.1 with
  | some e => r.2.handleConnectResult (r.2.pointer .main) (.error e)
  | none => { r.2 with delayTask := true }

def startFallbackConnection (init openSession : Bool) : FallbackableUpstreamConnector :=
  let r := { f with tried := true }.startChild .fallback init openSession
  match r.1 with
  | some e => r.2.handleConnectResult (r.2.pointer .fallback) (.error e)
  | none => r.2

def disconnect : FallbackableUpstreamConnector :=
  let f := f.record [.disconnected]
  let f := if !f.main.hasResult then f.tell .main else f
  let f := { f with main := { f.main with resultTask := none } }
  let f := if f.tried && !f.fallback.hasResult then f.tell .fallback else f
  { f with delayTask := false, fallback := { f.fallback with resultTask := none } }

def connectorHandler (child : Child) (c : SingleUpstreamConnector) :
    FallbackableUpstreamConnector :=
  let f := f.setInfo child { f.info child with connector := some c }
  match c.reported with
  | none => f
  | some result =>
    f.setInfo child { f.info child with resultTask := some ⟨f.pointer child, result⟩ }

end Calls

inductive Input
  | childEvent (child : Child) (event : ServerEvent)
  | childTask (child : Child)
  | resultTask (child : Child)
  | delayTask (init openSession : Bool)
  | handedEvent (child : Child) (event : ServerEvent)
deriving DecidableEq, Repr

def step (f : FallbackableUpstreamConnector) : Input → Option FallbackableUpstreamConnector
  | .childEvent child event =>
    ((f.info child).connector.bind fun c ↦ c.receive event).map (f.connectorHandler child)
  | .childTask child =>
    ((f.info child).connector.bind fun c ↦ c.runDeferredTask).map (f.connectorHandler child)
  | .resultTask child =>
    (f.info child).resultTask.map fun task ↦
      (f.setInfo child { f.info child with resultTask := none }).handleConnectResult
        task.ready task.result
  | .delayTask init openSession =>
    if f.delayTask then
      some ({ f with delayTask := false }.startFallbackConnection init openSession)
    else none
  | .handedEvent child event =>
    match (f.info child).resultTask with
    | some ⟨ready, .upstream u⟩ =>
      (u.raise event).map fun u ↦
        f.setInfo child { f.info child with resultTask := some ⟨ready, .upstream u⟩ }
    | _ => none

section Frame

variable (f : FallbackableUpstreamConnector) (child : Child) (info : ConnectorInfo)

@[simp] theorem info_setInfo_self : (f.setInfo child info).info child = info := by
  cases child <;> rfl

@[simp] theorem info_setInfo_other :
    (f.setInfo child info).info child.other = f.info child.other := by
  cases child <;> rfl

@[simp] theorem trace_setInfo : (f.setInfo child info).trace = f.trace := by
  cases child <;> rfl

@[simp] theorem tried_setInfo : (f.setInfo child info).tried = f.tried := by
  cases child <;> rfl

@[simp] theorem delayTask_setInfo : (f.setInfo child info).delayTask = f.delayTask := by
  cases child <;> rfl

@[simp] theorem setInfo_setInfo (info' : ConnectorInfo) :
    (f.setInfo child info).setInfo child info' = f.setInfo child info' := by
  cases child <;> rfl

@[simp] theorem info_record (rs : List Record) : (f.record rs).info child = f.info child := by
  cases child <;> rfl

@[simp] theorem info_tell_other : (f.tell child).info child.other = f.info child.other := by
  rw [tell]
  split
  · rfl
  · rw [info_record, info_setInfo_other]

@[simp] theorem trace_connectorHandler (c : SingleUpstreamConnector) :
    (f.connectorHandler child c).trace = f.trace := by
  rw [connectorHandler]
  split
  · exact trace_setInfo f child _
  · rw [trace_setInfo, trace_setInfo]

theorem task_connectorHandler (c : SingleUpstreamConnector) :
    ((f.connectorHandler child c).info child).resultTask =
      match c.reported with
      | none => (f.info child).resultTask | some r => some ⟨some child, r⟩ := by
  rw [connectorHandler]
  split
  · rw [info_setInfo_self]
  · rw [info_setInfo_self, pointer, info_setInfo_self]
    rfl

theorem info_connectorHandler_other (c : SingleUpstreamConnector) :
    (f.connectorHandler child c).info child.other = f.info child.other := by
  rw [connectorHandler]
  split
  · rw [info_setInfo_other]
  · rw [info_setInfo_other, info_setInfo_other]

theorem info_tell_self : (f.tell cd).info cd =
    { f.info cd with
      connector := (f.info cd).connector.map SingleUpstreamConnector.disconnect } := by
  rw [tell]
  split
  next h =>
    rw [h, Option.map_none, ← h]
  next c h =>
    rw [h, info_record, info_setInfo_self, Option.map_some]

theorem trace_tell : (f.tell child).trace =
    f.trace ++ if (f.info child).connector.isSome then [.toldToDisconnect child] else [] := by
  rw [tell]
  split
  next h => rw [h, Option.isSome_none, if_neg Bool.false_ne_true, List.append_nil]
  next c h =>
    rw [h, Option.isSome_some, if_pos rfl, record, trace_setInfo]

end Frame

def make (main fallback : ServerUpstream) : FallbackableUpstreamConnector where
  main := { connector := some { upstream := some main } }
  fallback := { connector := some { upstream := some fallback } }

end FallbackableUpstreamConnector

end TrustTunnel.Connector.Fallbackable
