import Courier.Runtime.Client
import Courier.Text.Quote

/-!
# The registrar

The registrar binds registered definitions to subjects of its server service. Registering a
definition is refused (the refusal's text comes back) when the name is registered already,
when the registry has no descriptor of it, when a handler names no method of the descriptor
or serves another kind of method, or when a method that can be called has no handler; the
checks run in that order, handlers in name order and methods in the descriptor's order.

Starting binds every method of every definition, definitions in name order: the subject is the
server's subject of the method's derived tokens (with the registrar's prefix and variables);
methods without a handler and methods that skip their inputs are not subscribed. A failure
stops the binding where it is; otherwise a watcher drops every subscription once the
registrar's context or the server is cancelled. A second start is refused.
-/

namespace Courier.Runtime

open Json

/-- The name a method kind goes by in refusals. -/
def kindText : MethodKind → String
  | .unary => "Unary"
  | .serverStreaming => "ServerStreaming"
  | .bidiStreaming => "BidiStreaming"

/-- Why a definition cannot be registered with a registrar, if it cannot. -/
def Registrar.refusal (g : Registrar) (d : Definition) : Option String :=
  let name := Text.quote d.fullName
  if g.definitions.any (·.fullName == d.fullName) then
    some ("duplicate service registration for " ++ name)
  else match g.registry.service? d.fullName with
    | none => some ("no descriptor registered for " ++ name)
    | some desc =>
      let handlerRefusal := d.methods.findSome? fun (m, b) =>
        match desc.method? m with
        | none => some (name ++ " has no method " ++ Text.quote m)
        | some md =>
          if md.kind == b.kind then none
          else some (d.fullName ++ "." ++ m ++ " is " ++ kindText md.kind ++ ", handler is " ++
            kindText b.kind)
      match handlerRefusal with
      | some r => some r
      | none =>
        desc.methods.findSome? fun md =>
          if md.skipInputs || d.methods.any (·.1 == md.name) then none
          else some (d.fullName ++ "." ++ md.name ++ " has no handler")

/-- The duty serving a method of a behaviour under a label. -/
def Behaviour.duty (label : String) : Behaviour → Duty
  | .unary slow => .unary label slow
  | .serverStream style => .serverStream label style
  | .bidi => .bidi label

/-- The methods the registrar binds: every method of every definition's descriptor, with the
behaviour registered for it. -/
def Registrar.bindings (g : Registrar) :
    List (ServiceDescriptor × MethodDescriptor × Option Behaviour) :=
  g.definitions.flatMap fun d =>
    match g.registry.service? d.fullName with
    | some desc => desc.methods.map fun md =>
        (desc, md, (d.methods.find? (·.1 == md.name)).map (·.2))
    | none => []

/-- The subject the registrar binds a method of a service to: the server's subject of the
method's derived tokens, with the registrar's prefix and the service's variables. -/
def Registrar.subjectOf (g : Registrar) (server : Service) (desc : ServiceDescriptor)
    (md : MethodDescriptor) : Except RpcError Subject :=
  (Derive.subjectTokens g.pre desc md).map fun tokens =>
    server.subject (Derive.parametrize tokens (Derive.serviceVars desc.fullName g.vars))

namespace World

/-- Changes the registrar. -/
def modifyRegistrar (w : World) (f : Registrar → Registrar) : World :=
  { w with registrar := w.registrar.map f }

/-- Registers a definition, or gives the refusal's text. -/
def register (w : World) (d : Definition) : Except String World :=
  match w.registrar with
  | none => .error "no registrar"
  | some g =>
    match g.refusal d with
    | some r => .error r
    | none =>
      let defs := (g.definitions ++ [d]).mergeSort fun a b => decide (a.fullName ≤ b.fullName)
      .ok (w.modifyRegistrar fun g => { g with definitions := defs })

/-- Binds methods of the registrar in order, stopping at the first failure. -/
def bindAll (w : World) (g : Registrar) (server : Service) :
    List (ServiceDescriptor × MethodDescriptor × Option Behaviour) → World × Option RpcError
  | [] => (w, none)
  | (desc, md, behaviour) :: rest =>
    match g.subjectOf server desc md with
    | .error e => (w, some e)
    | .ok subject =>
      match behaviour with
      | none => bindAll w g server rest
      | some b =>
        if md.skipInputs then bindAll w g server rest
        else
          match w.subscribeTo g.svc subject (b.duty (desc.fullName ++ "." ++ md.name)) with
          | .error e => (w, some (RpcError.ofService e))
          | .ok (w, id) =>
            let w := w.modifyRegistrar fun g => { g with subscriptions := g.subscriptions ++ [id] }
            bindAll w g server rest

/-- Starts the registrar. -/
def startRegistrar (w : World) : World × Outcome :=
  match w.registrar with
  | none => (w, .callFailure .notStarted)
  | some g =>
    if g.started then (w, .callFailure .alreadyStarted)
    else
      let w := w.modifyRegistrar fun g => { g with started := true }
      match w.service? g.svc with
      | none => (w, .callFailure .notStarted)
      | some server =>
        match w.bindAll g server g.bindings with
        | (w, some e) => (w, .callFailure e)
        | (w, none) =>
          let w := w.modifyRegistrar fun g => { g with watching := true }
          (w.wake .watcher, .done)

/-- Drops every subscription of the registrar. -/
def stopRegistrar (w : World) : World :=
  match w.registrar with
  | some g =>
    let w := g.subscriptions.foldl (fun w id => w.unsubscribeRoute id) w
    w.modifyRegistrar fun g => { g with subscriptions := [] }
  | none => w

end World

end Courier.Runtime
