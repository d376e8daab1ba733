import Courier.Proofs.Footprints
import Courier.Runtime.Registrar

/-!
# Registering, serving and releasing methods

A registrar takes a definition when its name is new, the registry describes it, every handler
names a method of the descriptor of the handler's kind, and every method that takes its inputs
has a handler (`refusal_eq_none_iff`). Methods are found by name, so a handler's kind is checked
against the first method of its name.

Starting a registrar whose definitions all passed these checks subscribes one route for each
method that takes its inputs, of each registered service, in binding order, with fresh ids
(`startRegistrar_serves`).

From then on the registrar either serves those routes, listing them all and each live, or has
released them, listing none and each retired (`Hold`). A stop, a cancellation, a task's turn and
a tick of the clock keep this (`Hold.apply`), whatever their order; a stop, and the watcher once
the registrar's context or its service is cancelled, release the routes, and the bus counts each
unsubscription once (`Hold.stop`, `Hold.watcher`).
-/

namespace Courier.Runtime

open Bus Bus.Table

/-! ## Registering definitions -/

/-- A definition that fits a descriptor: each handler names a method of it of the handler's
kind (the first method of that name), and each method that takes its inputs has a handler. -/
def Definition.Fits (d : Definition) (desc : ServiceDescriptor) : Prop :=
  (∀ m b, (m, b) ∈ d.methods → ∃ md, desc.method? m = some md ∧ md.kind = b.kind) ∧
    ∀ md ∈ desc.methods, md.skipInputs = false → ∃ b, (md.name, b) ∈ d.methods

namespace Registrar

/-- What registering a definition asks: its name is new, and the registry describes it with a
descriptor it fits. -/
def Accepts (g : Registrar) (d : Definition) : Prop :=
  (∀ d' ∈ g.definitions, d'.fullName ≠ d.fullName) ∧
    ∃ desc, g.registry.service? d.fullName = some desc ∧ d.Fits desc

/-- A registrar refuses a definition exactly when registering it asks for something it lacks. -/
theorem refusal_eq_none_iff (g : Registrar) (d : Definition) :
    g.refusal d = none ↔ g.Accepts d := by
  unfold refusal
  split
  · next hdup =>
    simp only [reduceCtorEq, false_iff, Accepts, not_and]
    intro hnew
    obtain ⟨d', hd', heq⟩ := List.any_eq_true.mp hdup
    exact absurd (by simpa using heq) (hnew d' hd')
  · next hnew =>
    have hnew' : ∀ d' ∈ g.definitions, d'.fullName ≠ d.fullName := by
      simpa using hnew
    split
    · next hnone => simp [Accepts, hnone]
    · next desc hdesc =>
      have hfits : g.Accepts d ↔ d.Fits desc := by
        simp only [Accepts, hdesc, Option.some.injEq, exists_eq_left', and_iff_right hnew']
      rw [hfits]
      dsimp only
      split
      · -- a handler names no method of the descriptor, or one of another kind
        next r hr =>
        simp only [reduceCtorEq, false_iff]
        rintro ⟨hkinds, -⟩
        obtain ⟨⟨m, b⟩, hmem, hsome⟩ := List.exists_of_findSome?_eq_some hr
        obtain ⟨md, hmd, hkind⟩ := hkinds m b hmem
        simp [hmd, hkind] at hsome
      · next hr =>
        rw [List.findSome?_eq_none_iff] at hr
        rw [List.findSome?_eq_none_iff]
        have hkinds : ∀ m b, (m, b) ∈ d.methods →
            ∃ md, desc.method? m = some md ∧ md.kind = b.kind := by
          intro m b hmem
          have hnone := hr (m, b) hmem
          cases hm : desc.method? m with
          | none => simp [hm] at hnone
          | some md =>
            simp only [hm] at hnone
            exact ⟨md, rfl, by simpa using hnone⟩
        constructor
        · intro hall
          refine ⟨hkinds, fun md hmd hskip => ?_⟩
          have hnone := hall md hmd
          simp only [hskip, Bool.false_or, ite_eq_left_iff, reduceCtorEq, imp_false,
            List.any_eq_true, beq_iff_eq, not_not] at hnone
          obtain ⟨⟨n, b⟩, hx, rfl⟩ := hnone
          exact ⟨b, hx⟩
        · rintro ⟨-, hcover⟩ md hmd
          cases hskip : md.skipInputs
          · obtain ⟨b, hb⟩ := hcover md hmd hskip
            have hany : d.methods.any (·.1 == md.name) = true :=
              List.any_eq_true.mpr ⟨(md.name, b), hb, by simp⟩
            simp [hany]
          · simp

/-- The definitions of a registrar: each fits the descriptor the registry has for it, and no two
share a name. -/
structure Registered (g : Registrar) : Prop where
  fits : ∀ d ∈ g.definitions, ∃ desc, g.registry.service? d.fullName = some desc ∧ d.Fits desc
  names : (g.definitions.map (·.fullName)).Nodup

/-- The definitions after one more, in name order. -/
abbrev withDefinition (g : Registrar) (d : Definition) : List Definition :=
  (g.definitions ++ [d]).mergeSort fun a b => decide (a.fullName ≤ b.fullName)

theorem Registered.add {g : Registrar} (h : g.Registered) {d : Definition} (hd : g.Accepts d) :
    { g with definitions := g.withDefinition d }.Registered := by
  have hperm :=
    List.mergeSort_perm (g.definitions ++ [d]) fun a b => decide (a.fullName ≤ b.fullName)
  constructor
  · intro d' hd'
    rcases List.mem_append.mp (hperm.mem_iff.mp hd') with hmem | hmem
    · exact h.fits d' hmem
    · obtain rfl := List.mem_singleton.mp hmem
      exact hd.2
  · refine ((hperm.map (·.fullName)).nodup_iff).mpr ?_
    rw [List.map_append, List.nodup_append]
    refine ⟨h.names, List.nodup_singleton _, ?_⟩
    simp only [List.mem_map, List.mem_singleton]
    rintro _ ⟨d', hd', rfl⟩ _ ⟨_, rfl, rfl⟩ heq
    exact hd.1 d' hd' heq

end Registrar

namespace World

/-- Registering succeeds exactly when the registrar accepts the definition; the definition then
joins the others in name order, and nothing else changes. -/
theorem register_eq_ok_iff {w w' : World} {g : Registrar} (hg : w.registrar = some g)
    (d : Definition) :
    w.register d = .ok w' ↔
      g.Accepts d ∧
        w' = { w with registrar := some { g with definitions := g.withDefinition d } } := by
  simp only [register, hg, ← Registrar.refusal_eq_none_iff]
  cases g.refusal d with
  | some r => simp
  | none => simp [modifyRegistrar, hg, eq_comm]

/-- Registers definitions in turn; a refused one leaves the world as it was, as a registration
that panics leaves the registered definitions as they were. -/
def registerAll (w : World) (ds : List Definition) : World :=
  ds.foldl (fun w d => (w.register d).toOption.getD w) w

theorem registerAll_registered {w : World} {g : Registrar} (hg : w.registrar = some g)
    (hr : g.Registered) (ds : List Definition) :
    ∃ defs, w.registerAll ds = { w with registrar := some { g with definitions := defs } } ∧
      ({ g with definitions := defs } : Registrar).Registered := by
  induction ds generalizing w g with
  | nil => exact ⟨g.definitions, by simp [registerAll, ← hg], hr⟩
  | cons d ds ih =>
    have hstep : w.registerAll (d :: ds) = ((w.register d).toOption.getD w).registerAll ds := rfl
    rw [hstep]
    cases hreg : w.register d with
    | error e => exact ih hg hr
    | ok w₁ =>
      obtain ⟨hacc, rfl⟩ := (register_eq_ok_iff hg d).mp hreg
      obtain ⟨defs, heq, hdefs⟩ :=
        ih (show ({ w with registrar := some _ } : World).registrar = some _ from rfl) (hr.add hacc)
      exact ⟨defs, by simpa [Except.toOption] using heq, hdefs⟩

/-! ## Starting: one subscription per method that can be called -/

/-- The bindings of a list that take their inputs and have a behaviour: the methods a binding
subscribes. -/
def servedOf (L : List (ServiceDescriptor × MethodDescriptor × Option Behaviour)) :
    List (ServiceDescriptor × MethodDescriptor × Behaviour) :=
  L.filterMap fun x => if x.2.1.skipInputs then none else x.2.2.map fun b => (x.1, x.2.1, b)

/-- Route `r` serves method `x` (a descriptor, a method and its behaviour) of registrar `g` on
`server`: it is live, on the method's subject, in the server's queue group, and hands deliveries
to the server under the duty of the behaviour, labelled by the method's full name. -/
def Serves (g : Registrar) (server : Service)
    (x : ServiceDescriptor × MethodDescriptor × Behaviour) (r : Route Handler) : Prop :=
  r.live = true ∧ g.subjectOf server x.1 x.2.1 = .ok r.pattern ∧
    r.group = server.options.queueName ∧
    r.handler = .service g.svc (x.2.2.duty (x.1.fullName ++ "." ++ x.2.1.name))

theorem subscribeTo_ok {w w₁ : World} {svc : Nat} {subject : Subject} {duty : Duty} {id : Nat}
    (h : w.subscribeTo svc subject duty = .ok (w₁, id)) :
    id = w.bus.nextId ∧ w₁ = { w with bus := { w.bus with
      routes := w.bus.routes ++
        [{ id, pattern := subject, group := (w.service? svc).bind (·.options.queueName),
           handler := .service svc duty }],
      nextId := w.bus.nextId + 1,
      stats := { w.bus.stats with subscribed := w.bus.stats.subscribed + 1 } } } := by
  unfold subscribeTo subscribeRoute at h
  dsimp only at h
  cases hadd :
      w.bus.add subject ((w.service? svc).bind (·.options.queueName)) (.service svc duty) with
  | error e => simp [hadd] at h
  | ok p =>
    obtain ⟨b, id'⟩ := p
    obtain ⟨rfl, rfl⟩ := add_ok hadd
    simp only [hadd, Except.ok.injEq, Prod.mk.injEq] at h
    obtain ⟨rfl, rfl⟩ := h
    exact ⟨rfl, rfl⟩

/-- `w'` is `w` with `added` subscribed for the registrar one after another: fresh ids in
order, each counted by the bus and listed by the registrar; runners, tasks and tokens stay. -/
structure Subscribes (w w' : World) (added : List (Route Handler)) : Prop where
  ids : added.map (·.id) = List.range' w.bus.nextId added.length
  routes : w'.bus.routes = w.bus.routes ++ added
  nextId : w'.bus.nextId = w.bus.nextId + added.length
  subscribed : w'.bus.stats.subscribed = w.bus.stats.subscribed + added.length
  registrar : w'.registrar = w.registrar.map
    (fun g₀ => { g₀ with subscriptions := g₀.subscriptions ++ added.map (·.id) })
  runners : w'.runners = w.runners
  ready : w'.ready = w.ready
  tokens : w'.tokens = w.tokens

theorem Subscribes.nil (w : World) : Subscribes w w [] :=
  ⟨rfl, by simp, rfl, rfl, by cases w.registrar <;> simp, rfl, rfl, rfl⟩

theorem Subscribes.cons {w w₁ w' : World} {svc : Nat} {subject : Subject} {duty : Duty} {id : Nat}
    {routes : List (Route Handler)} (hsub : w.subscribeTo svc subject duty = .ok (w₁, id))
    (h : Subscribes (w₁.modifyRegistrar fun g => { g with subscriptions := g.subscriptions ++ [id] })
      w' routes) :
    Subscribes w w' ({ id := w.bus.nextId, pattern := subject,
                       group := (w.service? svc).bind (·.options.queueName),
                       handler := .service svc duty } :: routes) := by
  obtain ⟨rfl, rfl⟩ := subscribeTo_ok hsub
  refine ⟨?_, ?_, ?_, ?_, ?_, h.runners, h.ready, h.tokens⟩
  · simp only [List.map_cons, List.length_cons, List.range'_succ]
    exact congrArg _ h.ids
  · simp [h.routes, modifyRegistrar]
  · rw [h.nextId, List.length_cons]
    simp only [modifyRegistrar]
    omega
  · rw [h.subscribed, List.length_cons]
    simp only [modifyRegistrar]
    omega
  · rw [h.registrar]
    cases w.registrar <;> simp [modifyRegistrar]

/-- Why binding `x` fails with `e` in `w`: its subject cannot be derived, or the bus refuses
the subscription of the derived subject. -/
def BindingFails (g : Registrar) (server : Service) (w : World)
    (x : ServiceDescriptor × MethodDescriptor × Option Behaviour) (e : RpcError) : Prop :=
  g.subjectOf server x.1 x.2.1 = .error e ∨
    ∃ subject b se, g.subjectOf server x.1 x.2.1 = .ok subject ∧ x.2.2 = some b ∧
      x.2.1.skipInputs = false ∧
      w.subscribeTo g.svc subject (b.duty (x.1.fullName ++ "." ++ x.2.1.name)) = .error se ∧
      e = RpcError.ofService se

/-- Binding goes through the bindings in order: those before the first failure, if any, are
served, each by one new live route subscribed with a fresh id, counted and listed; binding stops
at the failing one. -/
theorem bindAll_spec {g : Registrar} {server : Service} :
    ∀ {L : List (ServiceDescriptor × MethodDescriptor × Option Behaviour)} {w w' : World}
      {r : Option RpcError},
    w.service? g.svc = some server → w.bindAll g server L = (w', r) →
    ∃ pre rest routes, L = pre ++ rest ∧ List.Forall₂ (Serves g server) (servedOf pre) routes ∧
      Subscribes w w' routes ∧
      (r = none ∧ rest = [] ∨
        ∃ x rest' e, rest = x :: rest' ∧ r = some e ∧ BindingFails g server w' x e)
  | [], w, w', r, _, h => by
    simp only [bindAll, Prod.mk.injEq] at h
    obtain ⟨rfl, rfl⟩ := h
    exact ⟨[], [], [], rfl, .nil, Subscribes.nil w, .inl ⟨rfl, rfl⟩⟩
  | (desc, md, behaviour) :: L, w, w', r, hserver, h => by
    simp only [bindAll] at h
    split at h
    · -- the subject cannot be derived: binding stops here
      next e he =>
      simp only [Prod.mk.injEq] at h
      obtain ⟨rfl, rfl⟩ := h
      exact ⟨[], _, [], rfl, .nil, Subscribes.nil w, .inr ⟨_, L, e, rfl, rfl, .inl he⟩⟩
    · next subject hsubject =>
      -- a binding that subscribes nothing joins the served prefix as it is
      have hskip_prefix : ∀ {b : Option Behaviour},
          (∀ pre, servedOf ((desc, md, b) :: pre) = servedOf pre) →
          w.bindAll g server L = (w', r) →
          ∃ pre rest routes, (desc, md, b) :: L = pre ++ rest ∧
            List.Forall₂ (Serves g server) (servedOf pre) routes ∧ Subscribes w w' routes ∧
            (r = none ∧ rest = [] ∨
              ∃ x rest' e, rest = x :: rest' ∧ r = some e ∧ BindingFails g server w' x e) := by
        intro b hnone hrest
        obtain ⟨pre, rest, routes, rfl, hserves, hsubs, hend⟩ := bindAll_spec hserver hrest
        exact ⟨(desc, md, b) :: pre, rest, routes, rfl, hnone pre ▸ hserves, hsubs, hend⟩
      split at h
      · exact hskip_prefix (fun _ => by simp [servedOf]) h
      · next b =>
        split at h
        · next hskip => exact hskip_prefix (fun _ => by simp [servedOf, hskip]) h
        · next hskip =>
          split at h
          · -- the bus refuses the subscription: binding stops here
            next se hse =>
            simp only [Prod.mk.injEq] at h
            obtain ⟨rfl, rfl⟩ := h
            exact ⟨[], _, [], rfl, .nil, Subscribes.nil w,
              .inr ⟨_, L, _, rfl, rfl, .inr ⟨subject, b, se, hsubject, rfl, by simpa using hskip,
                hse, rfl⟩⟩⟩
          · next w₁ id hsub =>
            have hserver₁ : (w₁.modifyRegistrar fun g =>
                { g with subscriptions := g.subscriptions ++ [id] }).service? g.svc =
                some server := by
              obtain ⟨-, rfl⟩ := subscribeTo_ok hsub
              exact hserver
            obtain ⟨pre, rest, routes, rfl, hserves, hsubs, hend⟩ := bindAll_spec hserver₁ h
            refine ⟨(desc, md, some b) :: pre, rest, _ :: routes, rfl, ?_,
              Subscribes.cons hsub hsubs, hend⟩
            have hcons : servedOf ((desc, md, some b) :: pre) = (desc, md, b) :: servedOf pre := by
              simp [servedOf, hskip]
            rw [hcons]
            exact .cons ⟨rfl, hsubject, by rw [hserver]; rfl, rfl⟩ hserves

/-- A binding that succeeds serves every binding, each method that takes its inputs and has a
behaviour by one new live route. -/
theorem bindAll_ok {g : Registrar} {server : Service}
    {L : List (ServiceDescriptor × MethodDescriptor × Option Behaviour)} {w w' : World}
    (hserver : w.service? g.svc = some server) (h : w.bindAll g server L = (w', none)) :
    ∃ routes, List.Forall₂ (Serves g server) (servedOf L) routes ∧ Subscribes w w' routes := by
  obtain ⟨pre, rest, routes, rfl, hserves, hsubs, hend⟩ := bindAll_spec hserver h
  rcases hend with ⟨-, rfl⟩ | ⟨_, _, _, -, hne, -⟩
  · exact ⟨routes, by simpa using hserves, hsubs⟩
  · cases hne

/-- A start that succeeds finds the registrar not started and its server there; it marks the
registrar started, binds every binding, and then arms the watcher. -/
theorem startRegistrar_done {w w' : World} (h : w.startRegistrar = (w', .done)) :
    ∃ g server w₁, w.registrar = some g ∧ g.started = false ∧ w.service? g.svc = some server ∧
      (w.modifyRegistrar fun g => { g with started := true }).bindAll g server g.bindings =
        (w₁, none) ∧
      w' = (w₁.modifyRegistrar fun g => { g with watching := true }).wake .watcher := by
  unfold startRegistrar at h
  split at h
  · simp at h
  · next g hg =>
    split at h
    · simp at h
    · next hstarted =>
      dsimp only at h
      split at h
      · simp at h
      · next server hserver =>
        split at h
        · simp at h
        · next w₁ hbind =>
          simp only [Prod.mk.injEq] at h
          exact ⟨g, server, w₁, hg, by simpa using hstarted, hserver, hbind, h.1.symm⟩

end World

namespace Registrar

/-- The methods a registrar serves, in binding order: each method that takes its inputs, of each
registered definition's descriptor, with the behaviour registered under its name. -/
def served (g : Registrar) : List (ServiceDescriptor × MethodDescriptor × Behaviour) :=
  World.servedOf g.bindings

/-- The methods a registrar can be called on: each method that takes its inputs, of each
registered definition's descriptor, in binding order. -/
def callable (g : Registrar) : List (ServiceDescriptor × MethodDescriptor) :=
  g.definitions.flatMap fun d =>
    ((g.registry.service? d.fullName).map fun desc =>
      (desc.methods.filter (!·.skipInputs)).map ((desc, ·))).getD []

/-- The bindings of one described definition: each method of its descriptor, with the behaviour
of its first handler of that name. -/
theorem bindings_single (g : Registrar) {d : Definition} {desc : ServiceDescriptor}
    (h : g.registry.service? d.fullName = some desc) :
    { g with definitions := [d] }.bindings =
      desc.methods.map fun md => (desc, md, (d.methods.find? (·.1 == md.name)).map (·.2)) := by
  simp [bindings, h]

theorem bindings_cons (g : Registrar) (d : Definition) (defs : List Definition) :
    { g with definitions := d :: defs }.bindings =
      { g with definitions := [d] }.bindings ++ { g with definitions := defs }.bindings := by
  simp [bindings]

/-- Of the methods of a descriptor, those that take their inputs are served, each with its
handler, when each of them has one. -/
theorem servedOf_methods {desc : ServiceDescriptor} {d : Definition} :
    ∀ {ms : List MethodDescriptor},
      (∀ md ∈ ms, md.skipInputs = false → ∃ b, (md.name, b) ∈ d.methods) →
      (World.servedOf (ms.map fun md => (desc, md, (d.methods.find? (·.1 == md.name)).map (·.2)))).map
        (fun x => (x.1, x.2.1)) = (ms.filter (!·.skipInputs)).map ((desc, ·))
  | [], _ => rfl
  | md :: ms, hcover => by
    have ih := @servedOf_methods desc d ms fun md' hmd' => hcover md' (List.mem_cons_of_mem _ hmd')
    cases hskip : md.skipInputs
    · -- a method that takes its inputs has a handler, so it is served
      obtain ⟨b, hb⟩ := hcover md List.mem_cons_self hskip
      obtain ⟨⟨n, b'⟩, hfind⟩ : ∃ x, d.methods.find? (·.1 == md.name) = some x :=
        Option.isSome_iff_exists.mp (List.find?_isSome.mpr ⟨(md.name, b), hb, by simp⟩)
      simpa [World.servedOf, List.filter_cons, hskip, hfind] using ih
    · simpa [World.servedOf, List.filter_cons, hskip] using ih

/-- The methods a registrar of registered definitions serves are the methods it can be called
on, in the same order. -/
theorem served_callable {g : Registrar} (h : g.Registered) :
    g.served.map (fun x => (x.1, x.2.1)) = g.callable := by
  suffices hdefs : ∀ defs : List Definition,
      (∀ d ∈ defs, ∃ desc, g.registry.service? d.fullName = some desc ∧ d.Fits desc) →
      ({ g with definitions := defs } : Registrar).served.map (fun x => (x.1, x.2.1)) =
        { g with definitions := defs }.callable from hdefs g.definitions h.fits
  intro defs hfits
  induction defs with
  | nil => rfl
  | cons d defs ih =>
    obtain ⟨desc, hdesc, -, hcover⟩ := hfits d List.mem_cons_self
    have hrest := ih fun d' hd' => hfits d' (List.mem_cons_of_mem _ hd')
    simp only [served, callable] at hrest ⊢
    rw [bindings_cons, bindings_single g hdesc, World.servedOf, List.filterMap_append,
      List.map_append, ← World.servedOf, servedOf_methods hcover]
    simp only [World.servedOf] at hrest
    simp [hrest, hdesc]

/-- Each binding is a method of the descriptor of a registered definition, with the behaviour
of the definition's first handler of the method's name. -/
theorem mem_bindings {g : Registrar} {x} (hx : x ∈ g.bindings) :
    ∃ d ∈ g.definitions, g.registry.service? d.fullName = some x.1 ∧ x.2.1 ∈ x.1.methods ∧
      x.2.2 = (d.methods.find? (·.1 == x.2.1.name)).map (·.2) := by
  obtain ⟨d, hd, hxd⟩ := List.mem_flatMap.mp hx
  cases hdesc : g.registry.service? d.fullName with
  | none => simp [hdesc] at hxd
  | some desc =>
    simp only [hdesc, List.mem_map] at hxd
    obtain ⟨md, hmd, rfl⟩ := hxd
    exact ⟨d, hd, hdesc, hmd, rfl⟩

/-- Each method a registrar of registered definitions serves is a method of a registered
descriptor, served by the first handler registered under its name; that handler has the kind of
the descriptor's first method of that name. -/
theorem served_kind {g : Registrar} (h : g.Registered) {x} (hx : x ∈ g.served) :
    ∃ d ∈ g.definitions, g.registry.service? d.fullName = some x.1 ∧ x.2.1 ∈ x.1.methods ∧
      x.2.1.skipInputs = false ∧ d.methods.find? (·.1 == x.2.1.name) = some (x.2.1.name, x.2.2) ∧
      ∃ md, x.1.method? x.2.1.name = some md ∧ md.kind = x.2.2.kind := by
  obtain ⟨⟨desc, md, behaviour⟩, hy, hfy⟩ := List.mem_filterMap.mp hx
  obtain ⟨d, hd, hdesc, hmd, hbehaviour⟩ := mem_bindings hy
  obtain ⟨desc', hdesc', hfits, -⟩ := h.fits d hd
  obtain rfl : desc' = desc := Option.some.inj (hdesc'.symm.trans hdesc)
  dsimp only at hfy hbehaviour hdesc hmd
  split at hfy
  · cases hfy
  · next hskip =>
    obtain ⟨b, hb, rfl⟩ := Option.map_eq_some_iff.mp hfy
    obtain ⟨⟨n, b'⟩, hfind, hb'⟩ := Option.map_eq_some_iff.mp (hbehaviour ▸ hb)
    obtain rfl : b' = b := hb'
    -- the handler found is registered under the method's own name
    obtain rfl : n = md.name := by simpa using List.find?_some hfind
    obtain ⟨md', hmd', hkind⟩ := hfits md.name b' (List.mem_of_find?_eq_some hfind)
    exact ⟨d, hd, hdesc, hmd, by simpa using hskip, hfind, md', hmd', hkind⟩

end Registrar

namespace World

theorem live_of_serves {g : Registrar} {server : Service} :
    ∀ {L : List (ServiceDescriptor × MethodDescriptor × Behaviour)} {routes : List (Route Handler)},
      List.Forall₂ (Serves g server) L routes → ∀ r ∈ routes, r.live = true
  | _, _, .nil => fun _ h => absurd h List.not_mem_nil
  | _, _, .cons hx hrest => fun r hr => by
    rcases List.mem_cons.mp hr with rfl | hr
    · exact hx.1
    · exact live_of_serves hrest r hr

/-- A successful start subscribes, in binding order, one live route with a fresh id for each
method the registrar serves; the registrar lists them, is started and watches; the bus counts
each subscription; the runners and tokens stay, and only the watcher is woken. -/
theorem startRegistrar_serves {w w' : World} {g : Registrar} (hg : w.registrar = some g)
    (h : w.startRegistrar = (w', .done)) :
    ∃ server routes, w.service? g.svc = some server ∧ g.started = false ∧
      List.Forall₂ (Serves g server) g.served routes ∧
      routes.map (·.id) = List.range' w.bus.nextId routes.length ∧
      w'.bus.routes = w.bus.routes ++ routes ∧
      w'.bus.nextId = w.bus.nextId + routes.length ∧
      w'.bus.stats.subscribed = w.bus.stats.subscribed + routes.length ∧
      w'.registrar =
        some { g with started := true, watching := true,
                      subscriptions := g.subscriptions ++ routes.map (·.id) } ∧
      w'.runners = w.runners ∧ (∀ t ∈ w'.ready, t ∈ w.ready ∨ t = .watcher) ∧
      w'.tokens = w.tokens := by
  obtain ⟨g', server, w₁, hg', hstarted, hserver, hbind, rfl⟩ := startRegistrar_done h
  obtain rfl : g' = g := Option.some.inj (hg'.symm.trans hg)
  obtain ⟨routes, hserves, ⟨hids, hroutes, hnext, hsubs, hreg, hrun, hready, htok⟩⟩ :=
    bindAll_ok (by exact hserver) hbind
  refine ⟨server, routes, hserver, hstarted, hserves, hids, ?_, ?_, ?_, ?_, ?_, ?_, ?_⟩
  · simpa [modifyRegistrar] using hroutes
  · simpa [modifyRegistrar] using hnext
  · simpa [modifyRegistrar] using hsubs
  · simp [modifyRegistrar, hreg, hg]
  · simpa [modifyRegistrar] using hrun
  · intro t ht
    rcases mem_ready_wake ht with h | rfl
    · exact .inl (by simpa [modifyRegistrar, hready] using h)
    · exact .inr rfl
  · simpa [modifyRegistrar, wake_tokens] using htok

end World

/-! ## A failed start -/

/-- The error of an outcome that is a failed call. -/
def Outcome.callError? : Outcome → Option RpcError
  | .callFailure e => some e
  | _ => none

theorem Outcome.callError?_eq_some {o : Outcome} {e : RpcError} :
    o.callError? = some e ↔ o = .callFailure e := by
  cases o <;> simp [callError?]

/-- Whether an outcome is a plain success. -/
def Outcome.isDone : Outcome → Bool
  | .done => true
  | _ => false

theorem Outcome.isDone_eq_true_iff {o : Outcome} : o.isDone = true ↔ o = .done := by
  cases o <;> simp [isDone]

namespace World

/-- The routes a registrar lists. -/
def listed (w : World) : List Nat := (w.registrar.map (·.subscriptions)).getD []

theorem startRegistrar_started {w : World} {g : Registrar} (hg : w.registrar = some g)
    (hs : g.started = true) : w.startRegistrar = (w, .callFailure .alreadyStarted) := by
  simp [startRegistrar, hg, hs]

/-- Where a failed start of registrar `g` from `w` to `w'` with error `e` stopped: its server is
missing, or binding stopped at a binding, a method of a registered definition's descriptor,
whose subject cannot be derived or whose subscription the bus refused; the bindings before it
stay served by the routes their start subscribed, live and listed by the registrar. -/
def StartStopped (w w' : World) (g : Registrar) (e : RpcError) : Prop :=
  (w.service? g.svc = none ∧ e = .notStarted ∧
      w' = w.modifyRegistrar fun g => { g with started := true }) ∨
    ∃ server pre x rest routes, w.service? g.svc = some server ∧
      g.bindings = pre ++ x :: rest ∧
      (∃ d ∈ g.definitions, g.registry.service? d.fullName = some x.1 ∧ x.2.1 ∈ x.1.methods) ∧
      BindingFails g server w' x e ∧
      List.Forall₂ (Serves g server) (servedOf pre) routes ∧
      Subscribes (w.modifyRegistrar fun g => { g with started := true }) w' routes

/-- A start that fails with anything but `alreadyStarted` found the registrar not started, stopped
where `StartStopped` says, and leaves the registrar started, so the next start is refused. -/
theorem failed_start_keeps_served_routes {w w' : World} {g : Registrar} {e : RpcError}
    (hg : w.registrar = some g) (h : w.startRegistrar = (w', .callFailure e))
    (he : e ≠ .alreadyStarted) :
    g.started = false ∧ w'.startRegistrar = (w', .callFailure .alreadyStarted) ∧
      StartStopped w w' g e := by
  unfold startRegistrar at h
  rw [hg] at h
  dsimp only at h
  split at h
  · -- a started registrar fails with alreadyStarted alone
    simp only [Prod.mk.injEq, Outcome.callFailure.injEq] at h
    exact absurd h.2.symm he
  · next hstarted =>
    have hstarted : g.started = false := by simpa using hstarted
    -- from here on the registrar is marked started
    have hrestart : ∀ v : World, (∃ g', v.registrar = some g' ∧ g'.started = true) →
        v.startRegistrar = (v, .callFailure .alreadyStarted) := by
      rintro v ⟨g', hg', hs'⟩
      exact startRegistrar_started hg' hs'
    split at h
    · next hserver =>
      simp only [Prod.mk.injEq, Outcome.callFailure.injEq] at h
      obtain ⟨rfl, rfl⟩ := h
      exact ⟨hstarted, hrestart _ ⟨{ g with started := true }, by simp [modifyRegistrar, hg], rfl⟩,
        .inl ⟨hserver, rfl, rfl⟩⟩
    · next server hserver =>
      split at h
      · next w₁ e' hbind =>
        simp only [Prod.mk.injEq, Outcome.callFailure.injEq] at h
        obtain ⟨rfl, rfl⟩ := h
        obtain ⟨pre, rest, routes, hsplit, hserves, hsubs, hend⟩ :=
          bindAll_spec (by exact hserver) hbind
        rcases hend with ⟨hnone, -⟩ | ⟨x, rest', e'', rfl, hsome, hfails⟩
        · cases hnone
        · obtain rfl : e'' = e' := Option.some.inj hsome.symm
          have hmem : x ∈ g.bindings := by
            rw [hsplit]
            exact List.mem_append_right _ List.mem_cons_self
          obtain ⟨d, hd, hdesc, hmd, -⟩ := Registrar.mem_bindings hmem
          have hreg : w₁.registrar = some
              { g with started := true, subscriptions := g.subscriptions ++ routes.map (·.id) } := by
            rw [hsubs.registrar]
            simp [modifyRegistrar, hg]
          exact ⟨hstarted, hrestart _ ⟨_, hreg, rfl⟩,
            .inr ⟨server, pre, x, rest', routes, hserver, hsplit, ⟨d, hd, hdesc, hmd⟩, hfails,
              hserves, hsubs⟩⟩
      · simp at h

/-- A registrar of one service whose second method's subject has a character subjects cannot
hold: its start subscribes the first method, then fails. -/
theorem failed_start_at_invalid_subject :
    ∃ (w : World) (g : Registrar) (e : RpcError), w.registrar = some g ∧
      w.startRegistrar = (w.startRegistrar.1, .callFailure e) ∧ e ≠ .alreadyStarted ∧
      g.started = false ∧
      w.startRegistrar.1.startRegistrar = (w.startRegistrar.1, .callFailure .alreadyStarted) ∧
      StartStopped w w.startRegistrar.1 g e := by
  let w : World :=
    { runners := #[{ service := ⟨{}, .json, {}⟩, shutdown := 0 }]
      registrar := some
        { svc := 0
          root := { token := 0 }
          registry := { services := [("a.S",
            { fullName := "a.S"
              subjectPrefix := some "s"
              methods := [{ name := "A", subjectSuffix := some "a" },
                { name := "B", subjectSuffix := some "b$" }] })] }
          definitions :=
            [{ fullName := "a.S", methods := [("A", .unary false), ("B", .unary false)] }] } }
  have hout : w.startRegistrar.2 =
      .callFailure (.invalidSubject "subject `s.b$` contains invalid characters") :=
    Outcome.callError?_eq_some.mp (by decide +kernel)
  have hstart : w.startRegistrar = (w.startRegistrar.1,
      .callFailure (.invalidSubject "subject `s.b$` contains invalid characters")) := by
    rw [← hout]
  exact ⟨w, _, _, rfl, hstart, nofun, failed_start_keeps_served_routes rfl hstart nofun⟩

/-- A failed start leaves what it subscribed behind: a registrar of one service whose second
method's subject has a character subjects cannot hold lists the first method's route, still live,
and a second start is refused as already started. -/
theorem failed_start_leaves_live_route :
    ∃ w : World,
      w.startRegistrar.2 =
        .callFailure (.invalidSubject "subject `s.b$` contains invalid characters") ∧
      w.startRegistrar.1.listed = [0] ∧ w.startRegistrar.1.bus.Live 0 ∧
      w.startRegistrar.1.startRegistrar.2 = .callFailure .alreadyStarted := by
  let w : World :=
    { runners := #[{ service := ⟨{}, .json, {}⟩, shutdown := 0 }]
      registrar := some
        { svc := 0
          root := { token := 0 }
          registry := { services := [("a.S",
            { fullName := "a.S"
              subjectPrefix := some "s"
              methods := [{ name := "A", subjectSuffix := some "a" },
                { name := "B", subjectSuffix := some "b$" }] })] }
          definitions :=
            [{ fullName := "a.S", methods := [("A", .unary false), ("B", .unary false)] }] } }
  have hout : w.startRegistrar.2 =
      .callFailure (.invalidSubject "subject `s.b$` contains invalid characters") :=
    Outcome.callError?_eq_some.mp (by decide +kernel)
  have hlisted : w.startRegistrar.1.listed = [0] := by decide +kernel
  have hlive : (w.startRegistrar.1.bus.route? 0).map (·.live) = some true := by decide +kernel
  obtain ⟨r, hr, hl⟩ := Option.map_eq_some_iff.mp hlive
  have hstarted : w.startRegistrar.1.registrar.map (·.started) = some true := by decide +kernel
  obtain ⟨g, hg, hs⟩ := Option.map_eq_some_iff.mp hstarted
  exact ⟨w, hout, hlisted, ⟨r, hr, hl⟩, by rw [startRegistrar_started hg hs]⟩

end World

/-! ## Steps that leave the registrar's routes alone -/

namespace World

theorem foldl_unsubscribeRoute (l : List Nat) (w : World) :
    l.foldl (fun w id => w.unsubscribeRoute id) w =
      { w with bus := l.foldl (fun b id => b.unsubscribe id) w.bus } := by
  induction l generalizing w with
  | nil => rfl
  | cons id l ih => exact ih (w.unsubscribeRoute id)

/-- `w'` is `w` with some tasks woken, none of them a release task; its clock and tokens may
have moved. -/
structure Woken (w w' : World) : Prop where
  bus : w'.bus = w.bus
  registrar : w'.registrar = w.registrar
  runners : w'.runners = w.runners
  releases : ∀ id, Task.release id ∈ w'.ready → Task.release id ∈ w.ready

theorem Woken.refl (w : World) : Woken w w := ⟨rfl, rfl, rfl, fun _ h => h⟩

theorem Woken.trans {w₁ w₂ w₃ : World} (h₁ : Woken w₁ w₂) (h₂ : Woken w₂ w₃) : Woken w₁ w₃ :=
  ⟨h₂.bus.trans h₁.bus, h₂.registrar.trans h₁.registrar, h₂.runners.trans h₁.runners,
    fun id h => h₁.releases id (h₂.releases id h)⟩

theorem foldl_woken {β : Type} {f : World → β → World} (hf : ∀ w b, Woken w (f w b)) :
    ∀ (l : List β) (w : World), Woken w (l.foldl f w)
  | [], w => Woken.refl w
  | b :: l, w => (hf w b).trans (foldl_woken hf l (f w b))

theorem wake_woken (w : World) {t : Task} (ht : ∀ id, t ≠ .release id) : Woken w (w.wake t) := by
  refine ⟨?_, wake_registrar w t, wake_runners w t, fun id h => ?_⟩
  · unfold wake
    split <;> rfl
  · rcases mem_ready_wake h with h | h
    · exact h
    · exact absurd h.symm (ht id)

/-- Cancelling a token wakes run loops and the watcher, nothing else; a waiting watcher is
woken. -/
theorem cancel_woken (w : World) (k : Nat) :
    Woken w (w.cancel k) ∧
      ∀ g, w.registrar = some g → g.watching = true → Task.watcher ∈ (w.cancel k).ready := by
  unfold cancel
  dsimp only
  generalize hv : List.foldl _ _ _ = v
  have hloops : Woken w v := by
    rw [← hv]
    refine (⟨rfl, rfl, rfl, fun _ h => h⟩ : Woken w { w with tokens := w.tokens.cancel k }).trans
      (foldl_woken (fun u j => ?_) _ _)
    split
    · split
      · split
        · exact wake_woken _ fun _ => nofun
        · exact Woken.refl _
      · exact Woken.refl _
    · exact Woken.refl _
  refine ⟨?_, fun g hg hw => ?_⟩
  · split
    · split
      · exact hloops.trans (wake_woken v fun _ => nofun)
      · exact hloops
    · exact hloops
  · simp only [hloops.registrar, hg, hw, if_true]
    exact mem_wake_ready v _

theorem fire_woken (w : World) (t : Nat) : Woken w ({ w with now := t }.fire t) := by
  unfold fire
  refine (⟨rfl, rfl, rfl, fun _ h => h⟩ : Woken w { w with now := t }).trans
    ((foldl_woken (fun u i => ?_) _ _).trans (foldl_woken (fun u nap => ?_) _ _))
  · split
    · split
      · split
        · exact wake_woken _ fun _ => nofun
        · exact Woken.refl _
      · exact Woken.refl _
    · exact Woken.refl _
  · split
    · exact wake_woken _ fun _ => nofun
    · exact Woken.refl _

end World

/-! ## The routes of a started registrar -/

namespace Registrar

/-- Where a registrar stands with the routes `ids` its start subscribed: serving them, listing
them all, each live, with its watcher waiting; or having released them, listing none, each
retired. -/
inductive Stand (ids : List Nat) (b : Table Handler) (g : Registrar) : Prop where
  | serving : g.subscriptions = ids → g.watching = true → (∀ id ∈ ids, b.Live id) →
      Stand ids b g
  | released : g.subscriptions = [] → (∀ id ∈ ids, b.Retired id) → Stand ids b g

variable {ids : List Nat} {b b' : Table Handler} {g : Registrar}

theorem Stand.fades (h : g.Stand ids b) {gone : Nat → Prop} (hf : b.Fades gone b')
    (hg : ∀ id ∈ ids, ¬ gone id) : g.Stand ids b' := by
  cases h with
  | serving hs hw hl => exact .serving hs hw fun id hid => hf.live (hl id hid) (hg id hid)
  | released hs hr => exact .released hs fun id hid => hf.retired (hr id hid)

theorem Stand.listed (h : g.Stand ids b) :
    (g.subscriptions = ids ∨ g.subscriptions = []) ∧ ∀ id ∈ g.subscriptions, b.Live id := by
  cases h with
  | serving hs _ hl => exact ⟨.inl hs, hs ▸ hl⟩
  | released hs _ => exact ⟨.inr hs, by simp [hs]⟩

/-- Unsubscribing what a registrar lists, each once, leaves its routes retired; the bus counts
one unsubscription for each route listed. -/
theorem Stand.release (h : g.Stand ids b) (hn : ids.Nodup) :
    (∀ id ∈ ids, (g.subscriptions.foldl (fun b id => b.unsubscribe id) b).Retired id) ∧
      (g.subscriptions.foldl (fun b id => b.unsubscribe id) b).stats.unsubscribed =
        b.stats.unsubscribed + g.subscriptions.length := by
  cases h with
  | serving hl _ hlive =>
    rw [hl]
    exact foldl_unsubscribe_live hn hlive
  | released hl hretired =>
    rw [hl]
    exact ⟨hretired, rfl⟩

end Registrar

namespace World

/-- The routes `ids` of a started registrar, kept its own: the registrar stands with them, they
are distinct, and none of them is a service's ping route or waits for a release task. -/
structure Hold (ids : List Nat) (w : World) : Prop where
  stand : ∃ g, w.registrar = some g ∧ g.started = true ∧ g.Stand ids w.bus
  nodup : ids.Nodup
  pings : ∀ svc id, w.pingOf svc id → id ∉ ids
  releases : ∀ id, Task.release id ∈ w.ready → id ∉ ids

/-- `w'` is `w` after its registrar released what it listed: distinct live routes, all of `ids`
or none, each counted once by the bus; then each of `ids` is retired and nothing is listed. -/
structure Releases (ids : List Nat) (w w' : World) : Prop where
  listed : w.listed = ids ∨ w.listed = []
  live : ∀ id ∈ w.listed, w.bus.Live id
  counted : w'.bus.stats.unsubscribed = w.bus.stats.unsubscribed + w.listed.length
  retired : ∀ id ∈ ids, w'.bus.Retired id
  cleared : w'.listed = []

namespace Hold

variable {ids : List Nat} {w w' : World}

theorem loopQuiet (h : Hold ids w) {svc : Nat} (hq : LoopQuiet svc w w') : Hold ids w' := by
  obtain ⟨g, hg, hst, hs⟩ := h.stand
  refine ⟨⟨g, hq.registrar.trans hg, hst, hs.fades hq.routes fun id hid hp =>
      h.pings svc id hp hid⟩, h.nodup,
    fun svc' id hp => h.pings svc' id ((pingOf_iff hq.pings svc' id).mp hp), fun id hr => ?_⟩
  rcases hq.ready _ hr with hr | ⟨_, hr⟩
  · exact h.releases id hr
  · cases hr

theorem quiet (h : Hold ids w) (hq : Quiet w w') : Hold ids w' := h.loopQuiet (hq.loopQuiet 0)

theorem woken (h : Hold ids w) (hw : Woken w w') : Hold ids w' := by
  obtain ⟨g, hg, hst, hs⟩ := h.stand
  refine ⟨⟨g, hw.registrar.trans hg, hst, hw.bus ▸ hs⟩, h.nodup, fun svc id hp => ?_,
    fun id hr => h.releases id (hw.releases id hr)⟩
  exact h.pings svc id ((pingOf_iff (by rw [hw.runners]) svc id).mp hp)

theorem unsubscribeRoute (h : Hold ids w) {id : Nat} (hid : id ∉ ids) :
    Hold ids (w.unsubscribeRoute id) := by
  obtain ⟨g, hg, hst, hs⟩ := h.stand
  exact ⟨⟨g, hg, hst, hs.fades (fades_unsubscribe w.bus id) fun id' hid' h => hid (h ▸ hid')⟩,
    h.nodup, h.pings, h.releases⟩

theorem pop (h : Hold ids w) {t : Task} {rest : List Task} (hr : w.ready = t :: rest) :
    Hold ids { w with ready := rest } :=
  h.quiet ⟨rfl, rfl, rfl, Fades.refl _ _, fun _ ht => .inl (hr ▸ List.mem_cons_of_mem _ ht)⟩

/-- Releasing what the registrar lists keeps its routes, now released, and the bus counts each
route listed once. -/
theorem releaseAll (h : Hold ids w) {g : Registrar} (hg : w.registrar = some g) (g' : Registrar)
    (hs : g'.subscriptions = []) (hst : g'.started = true) :
    Hold ids { w with bus := g.subscriptions.foldl (fun b id => b.unsubscribe id) w.bus,
                      registrar := some g' } ∧
      Releases ids w { w with bus := g.subscriptions.foldl (fun b id => b.unsubscribe id) w.bus,
                              registrar := some g' } := by
  obtain ⟨g₀, hg₀, -, hstand⟩ := h.stand
  obtain rfl : g₀ = g := Option.some.inj (hg₀.symm.trans hg)
  obtain ⟨hretired, hcount⟩ := hstand.release h.nodup
  obtain ⟨hlisted, hlive⟩ := hstand.listed
  have hw : w.listed = g₀.subscriptions := by simp [listed, hg]
  exact ⟨⟨⟨g', rfl, hst, .released hs hretired⟩, h.nodup, h.pings, h.releases⟩,
    ⟨hw ▸ hlisted, hw ▸ hlive, hw ▸ hcount, hretired, by simp [listed, hs]⟩⟩

theorem stopRegistrar (h : Hold ids w) :
    Hold ids w.stopRegistrar ∧ Releases ids w w.stopRegistrar := by
  obtain ⟨g, hg, hst, -⟩ := h.stand
  have hstop : w.stopRegistrar =
      { w with bus := g.subscriptions.foldl (fun b id => b.unsubscribe id) w.bus,
               registrar := some { g with subscriptions := [] } } := by
    simp [World.stopRegistrar, hg, foldl_unsubscribeRoute, modifyRegistrar]
  rw [hstop]
  exact h.releaseAll hg { g with subscriptions := [] } rfl hst

theorem pollWatcher (h : Hold ids w) : Hold ids w.pollWatcher := by
  obtain ⟨g, hg, hst, -⟩ := h.stand
  unfold World.pollWatcher
  rw [hg]
  dsimp only
  split
  · rw [foldl_unsubscribeRoute]
    exact (h.releaseAll hg { g with subscriptions := [], watching := false } rfl hst).1
  · exact h

/-- Once the registrar's context or its service is cancelled, the waiting watcher releases what
the registrar lists. -/
theorem pollWatcher_releases (h : Hold ids w) {g : Registrar} (hg : w.registrar = some g)
    (hw : g.watching = true) (hc : w.cancelled g.root.token = true ∨ w.isShutdown g.svc = true) :
    Releases ids w w.pollWatcher := by
  obtain ⟨g₀, hg₀, hst, -⟩ := h.stand
  obtain rfl : g₀ = g := Option.some.inj (hg₀.symm.trans hg)
  have hfire : (g₀.watching && (w.cancelled g₀.root.token || w.isShutdown g₀.svc)) = true := by
    rcases hc with hc | hc <;> simp [hw, hc]
  unfold World.pollWatcher
  rw [hg]
  dsimp only
  rw [if_pos hfire, foldl_unsubscribeRoute]
  exact (h.releaseAll hg { g₀ with subscriptions := [], watching := false } rfl hst).2

/-- A turn of the scheduler keeps the registrar's routes, whichever task runs. -/
theorem turn (h : Hold ids w) : Hold ids w.turn := by
  refine turn_induction (Hold ids) (fun v t rest hv hr => ?_) h
  have hpop := hv.pop hr
  cases t with
  | route id => exact hpop.quiet (handlerClosed_quiet.pollRoute _ id)
  | loop svc => exact hpop.loopQuiet (loopQuiet_pollLoop _ svc _)
  | watcher => exact hpop.pollWatcher
  | release id => exact hpop.unsubscribeRoute (hv.releases id (hr ▸ List.mem_cons_self))

/-- A start with fresh ids, in a world where every ping route and every route waiting for a
release task already has its id, leaves the registrar holding the routes it subscribed. -/
theorem of_start (g : Registrar) {routes : List (Route Handler)} (hwf : w.bus.WellFormed)
    (hpings : ∀ svc id, w.pingOf svc id → id < w.bus.nextId)
    (hreleases : ∀ id, Task.release id ∈ w.ready → id < w.bus.nextId)
    (hids : routes.map (·.id) = List.range' w.bus.nextId routes.length)
    (hroutes : w'.bus.routes = w.bus.routes ++ routes)
    (hnext : w'.bus.nextId = w.bus.nextId + routes.length) (hlive : ∀ r ∈ routes, r.live = true)
    (hreg : w'.registrar =
      some { g with started := true, watching := true, subscriptions := routes.map (·.id) })
    (hrun : w'.runners = w.runners) (hready : ∀ t ∈ w'.ready, t ∈ w.ready ∨ t = .watcher) :
    Hold (routes.map (·.id)) w' := by
  have hfresh : ∀ id ∈ routes.map (·.id), w.bus.nextId ≤ id := by
    intro id hid
    rw [hids, List.mem_range'_1] at hid
    exact hid.1
  -- the new routes come after every old one, so the grown table is well formed
  have hwf' : w'.bus.WellFormed := by
    constructor
    · rw [hroutes, List.map_append, List.nodup_append]
      refine ⟨hwf.ids_nodup, hids ▸ List.nodup_range', fun a ha b hb hab => ?_⟩
      obtain ⟨r, hr, rfl⟩ := List.mem_map.mp ha
      have := hwf.ids_lt r hr
      have := hfresh b hb
      omega
    · intro r hr
      rw [hroutes] at hr
      rw [hnext]
      rcases List.mem_append.mp hr with hr | hr
      · have := hwf.ids_lt r hr
        omega
      · have hid : r.id ∈ routes.map (·.id) := List.mem_map_of_mem hr
        rw [hids, List.mem_range'_1] at hid
        exact hid.2
  refine ⟨⟨_, hreg, rfl, .serving rfl rfl fun id hid => ?_⟩, hids ▸ List.nodup_range',
    fun svc id hp hid => ?_, fun id hr hid => ?_⟩
  · obtain ⟨r, hr, rfl⟩ := List.mem_map.mp hid
    exact ⟨r, route?_of_mem hwf' (hroutes ▸ List.mem_append_right _ hr), hlive r hr⟩
  · have := hpings svc id ((pingOf_iff (by rw [hrun]) svc id).mp hp)
    have := hfresh id hid
    omega
  · rcases hready _ hr with hr | hr
    · have := hreleases id hr
      have := hfresh id hid
      omega
    · cases hr

end Hold

end World

/-- What may happen while a registrar serves: a stop, the cancellation of a token (its context's,
or a service's as it shuts down), a turn of the ready tasks, and a tick of the clock. -/
inductive Shutoff where
  | stop
  | cancel (k : Nat)
  | turn
  | tick (t : Nat)

namespace Shutoff

def apply (w : World) : Shutoff → World
  | stop => w.stopRegistrar
  | cancel k => w.cancel k
  | turn => w.turn
  | tick t => { w with now := t }.fire t

/-- Events one after another. -/
def run (w : World) (es : List Shutoff) : World := es.foldl apply w

theorem run_append (w : World) (es es' : List Shutoff) : run w (es ++ es') = run (run w es) es' :=
  List.foldl_append

/-- A wait whose checks and abandonment leave the world as it is runs as turns and ticks. -/
theorem run_await {wait : Wait}
    (hcheck : ∀ (v v' : World) o, v.check wait = some (v', o) → v' = v)
    (habandon : ∀ v : World, v.abandon wait = v) (w : World) (limit fuel : Nat) :
    ∃ es, (w.await wait limit fuel).1 = run w es := by
  refine World.await_induction (fun v => ∃ es, v = run w es) wait ?_ ?_ ?_ ?_ ⟨[], rfl⟩ limit fuel
  · rintro v t rest ⟨es, rfl⟩ hr
    exact ⟨es ++ [.turn], by rw [run_append]; exact (World.turn_of_ready hr).symm⟩
  · rintro v t ⟨es, rfl⟩
    exact ⟨es ++ [.tick t], by rw [run_append]; rfl⟩
  · rintro v v' o ⟨es, rfl⟩ hc
    exact ⟨es, hcheck _ _ _ hc⟩
  · rintro v ⟨es, rfl⟩
    exact ⟨es, habandon _⟩

/-- Shutting a service down is a cancellation followed by turns and ticks until its loop stops. -/
theorem run_shutdown (w : World) (svc patience : Nat) :
    ∃ es, ((w.shutdown svc).conclude patience).1 = run w es := by
  have hstart : ∃ es, w.cancelService svc = run w es := by
    unfold World.cancelService
    split
    · next r _ => exact ⟨[.cancel r.shutdown], rfl⟩
    · exact ⟨[], rfl⟩
  obtain ⟨es, hes⟩ := hstart
  have hcheck : ∀ (v v' : World) o, v.check (.finish svc) = some (v', o) → v' = v := by
    intro v v' o hc
    simp only [World.check] at hc
    split at hc
    · split at hc
      · cases hc
      · cases hc; rfl
    · cases hc; rfl
  simp only [World.shutdown, Progress.conclude]
  split
  · next r hr => exact ⟨es, (hcheck _ _ _ hr).trans hes⟩
  · obtain ⟨es', hes'⟩ := run_await hcheck (fun _ => rfl) (w.cancelService svc) _ _
    exact ⟨es ++ es', by rw [hes', hes, run_append]⟩

end Shutoff

namespace World.Hold

variable {ids : List Nat} {w : World}

theorem apply (h : Hold ids w) : ∀ e : Shutoff, Hold ids (e.apply w)
  | .stop => h.stopRegistrar.1
  | .cancel k => h.woken (cancel_woken w k).1
  | .turn => h.turn
  | .tick t => h.woken (fire_woken w t)

/-- Whatever stops, cancellations, turns and ticks follow, the registrar keeps its routes. -/
theorem run (h : Hold ids w) (es : List Shutoff) : Hold ids (Shutoff.run w es) := by
  induction es generalizing w with
  | nil => exact h
  | cons e es ih => exact ih (h.apply e)

end World.Hold

/-! ## Registering, starting and releasing -/

namespace World

/-- The routes `ids` of a started registrar at `w`: still its own; a stop releases them, and so
does the watcher once the registrar's context or its service is cancelled, each route listed
unsubscribed once; any cancellation wakes the waiting watcher. -/
structure Teardown (ids : List Nat) (w : World) : Prop where
  hold : Hold ids w
  stop : Releases ids w w.stopRegistrar
  watcher : ∀ g, w.registrar = some g → g.watching = true →
    w.cancelled g.root.token = true ∨ w.isShutdown g.svc = true → Releases ids w w.pollWatcher
  wake : ∀ g k, w.registrar = some g → g.watching = true → Task.watcher ∈ (w.cancel k).ready

theorem Hold.teardown {ids : List Nat} {w : World} (h : Hold ids w) : Teardown ids w :=
  ⟨h, h.stopRegistrar.2, fun _ hg hw hc => h.pollWatcher_releases hg hw hc,
    fun g k hg hw => (cancel_woken w k).2 g hg hw⟩

/-- Registrar `g` of server `server` started from `w` to `w'`, subscribing `routes`: its
definitions are registered; it serves one route for each method that can be called, in order,
by the first handler of the method's name, which has the kind of the descriptor's first method
of that name; it lists the routes and the bus counted each; and whatever follows, the routes are
released once. -/
structure Serving (g : Registrar) (server : Service) (routes : List (Route Handler))
    (w w' : World) : Prop where
  registered : g.Registered
  served : List.Forall₂ (Serves g server) g.served routes
  callable : g.served.map (fun x => (x.1, x.2.1)) = g.callable
  handlers : ∀ x ∈ g.served, ∃ d ∈ g.definitions,
    d.methods.find? (·.1 == x.2.1.name) = some (x.2.1.name, x.2.2) ∧
      ∃ md, x.1.method? x.2.1.name = some md ∧ md.kind = x.2.2.kind
  listed : w'.listed = routes.map (·.id)
  count : routes.length = g.callable.length
  subscribed : w'.bus.stats.subscribed = w.bus.stats.subscribed + g.callable.length
  teardown : ∀ es, Teardown (routes.map (·.id)) (Shutoff.run w' es)

/-- Registering definitions with a fresh registrar and starting it. A definition is registered
exactly when its name is new, the registry describes it and it fits the descriptor, and a refused
one changes nothing. The start serves every method that can be called, once, and from then on,
whatever stops, cancellations, turns and ticks follow, the routes stay live until a stop or the
woken watcher releases them all, each unsubscribed once. -/
theorem registrar_serves_callable_releases_once {w : World} {g : Registrar}
    (hg : w.registrar = some g) (hdefs : g.definitions = []) (hsubs : g.subscriptions = [])
    (hwf : w.bus.WellFormed) (hpings : ∀ svc id, w.pingOf svc id → id < w.bus.nextId)
    (hreleases : ∀ id, Task.release id ∈ w.ready → id < w.bus.nextId) (ds : List Definition)
    {w' : World} (hstart : (w.registerAll ds).startRegistrar = (w', .done)) :
    (∀ (v v' : World) (g' : Registrar) (d : Definition), v.registrar = some g' →
      (v.register d = .ok v' ↔ g'.Accepts d ∧
        v' = { v with registrar := some { g' with definitions := g'.withDefinition d } })) ∧
    ∃ g₁ server routes, (w.registerAll ds).registrar = some g₁ ∧ w.service? g.svc = some server ∧
      Serving g₁ server routes w w' := by
  refine ⟨fun v v' g' d hg' => register_eq_ok_iff hg' d, ?_⟩
  obtain ⟨defs, hall, hR⟩ := registerAll_registered hg ⟨by simp [hdefs], by simp [hdefs]⟩ ds
  have hg₁ : (w.registerAll ds).registrar = some { g with definitions := defs } := by rw [hall]
  obtain ⟨server, routes, hserver, -, hserves, hids, hroutes, hnext, hcount, hreg, hrun, hready,
    -⟩ := startRegistrar_serves hg₁ hstart
  rw [hall] at hserver hids hroutes hnext hcount hrun hready
  have hlen : routes.length = ({ g with definitions := defs } : Registrar).callable.length := by
    rw [← Registrar.served_callable hR, List.length_map]
    exact hserves.length_eq.symm
  have hreg' : w'.registrar = some { g with definitions := defs, started := true, watching := true,
                                            subscriptions := routes.map (·.id) } := by
    rw [hreg, hsubs]
    rfl
  -- the start leaves the registrar holding its new routes, and every run after keeps them
  have hhold : Hold (routes.map (·.id)) w' :=
    Hold.of_start { g with definitions := defs } hwf hpings hreleases hids hroutes hnext
      (live_of_serves hserves) hreg' hrun hready
  refine ⟨_, server, routes, hg₁, hserver, hR, hserves, Registrar.served_callable hR,
    fun x hx => ?_, ?_, hlen, ?_, fun es => (hhold.run es).teardown⟩
  · obtain ⟨d, hd, -, -, -, hfind, hkind⟩ := Registrar.served_kind hR hx
    exact ⟨d, hd, hfind, hkind⟩
  · simp [listed, hreg']
  · rw [hcount, hlen]

/-- A registrar of one service whose descriptor has a unary method, a server-streaming method and
a method that skips its inputs, started after registering a definition that handles the first
two: it serves those two, one route each. -/
theorem registrar_serves_unary_and_stream :
    let g : Registrar :=
      { svc := 0
        root := { token := 0 }
        registry := { services := [("pkg.Svc",
          { fullName := "pkg.Svc"
            methods := [{ name := "Get" }, { name := "Watch", kind := .serverStreaming },
              { name := "Ping", skipInputs := true }] })] } }
    let w : World :=
      { runners := #[{ service := ⟨{}, .json, {}⟩, shutdown := 0 }], registrar := some g }
    let ds : List Definition :=
      [{ fullName := "pkg.Svc", methods := [("Get", .unary false), ("Watch", .serverStream .watch)] }]
    ∃ w', (w.registerAll ds).startRegistrar = (w', .done) ∧
      ((∀ (v v' : World) (g' : Registrar) (d : Definition), v.registrar = some g' →
        (v.register d = .ok v' ↔ g'.Accepts d ∧
          v' = { v with registrar := some { g' with definitions := g'.withDefinition d } })) ∧
      ∃ g₁ server routes, (w.registerAll ds).registrar = some g₁ ∧ w.service? g.svc = some server ∧
        Serving g₁ server routes w w' ∧ routes.length = 2) := by
  intro g w ds
  have hdone : (w.registerAll ds).startRegistrar.2 = .done :=
    Outcome.isDone_eq_true_iff.mp (by decide +kernel)
  have hstart : (w.registerAll ds).startRegistrar = ((w.registerAll ds).startRegistrar.1, .done) := by
    rw [← hdone]
  -- the one runner has no ping route yet, and no task is ready
  have hpings : ∀ svc id, w.pingOf svc id → id < w.bus.nextId := by
    rintro svc id ⟨r, hr, hp⟩
    rcases svc with _ | svc <;> simp [w, runner?] at hr
    subst hr
    simp at hp
  obtain ⟨hreg, g₁, server, routes, hg₁, hserver, hserving⟩ :=
    @registrar_serves_callable_releases_once w g rfl rfl rfl Bus.Table.wellFormed_empty hpings
      (fun _ h => absurd h List.not_mem_nil) ds _ hstart
  have hcallable : ((w.registerAll ds).registrar.map (·.callable.length)) = some 2 := by
    decide +kernel
  rw [hg₁, Option.map_some, Option.some_inj] at hcallable
  exact ⟨_, hstart, hreg, g₁, server, routes, hg₁, hserver, hserving, hserving.count.trans hcallable⟩

end World

/-- Handlers are checked against the first method of their name: a definition whose one unary
handler shares its name with a unary and a server-streaming method is registered, and its start
serves the server-streaming method by the unary handler. -/
theorem registrar_serves_streaming_method_by_unary_handler :
    ∃ (g : Registrar) (d : Definition), g.refusal d = none ∧
      ∃ x ∈ ({ g with definitions := [d] } : Registrar).served,
        x.2.1.kind = .serverStreaming ∧ x.2.2 = .unary false :=
  ⟨{ svc := 0
     root := { token := 0 }
     registry := { services := [("pkg.Svc",
       { fullName := "pkg.Svc"
         methods := [{ name := "Get" },
           { name := "Get", kind := .serverStreaming, subjectSuffix := some "alt" }] })] } },
    { fullName := "pkg.Svc", methods := [("Get", .unary false)] }, by decide, by decide⟩

end Courier.Runtime
