import Stencil.Proofs.Task.Meanwhile

/-!
# Stencil.Proofs.Task.Interleave — bodies that run at the same time

A helper may start several bodies of its block and poll them in any order, each as often as it
likes (`Interleaved`, `Interleaved.goesOn_of_turn`). As long as none of them renders a fragment
that has meanwhile been declared by another, each does what it does when it is run alone, and
writes the same texts (`Interleaved.runs_as_alone`).
-/

namespace Stencil

/-! ## Bodies that are run alone -/

namespace Task

variable {H : Host} [Evaluator]

/-- A task that is polled again and again, each time for so many steps. -/
def watchPolls : List Nat → Task H → World H → Watched (Task H × World H)
  | [], t, w => .pure (t, w)
  | n :: ns, t, w => (watch n t w).bind fun p => watchPolls ns p.task p.world

/-- A body that is run alone: it is started and polled, and nothing else happens. It has the number
that it has among the others, by which what is made anew in different bodies is told apart. -/
def watchAlone (block : CustomBlock) (i : Nat) (frame : Frame) (child : Nat) (polls : List Nat)
    (w : World H) : Watched (Task H × World H) :=
  (watchBody block i frame child w).bind fun r => watchPolls polls r.1 r.2

/-- One poll more after some. -/
theorem watchPolls_concat {ns : List Nat} {n : Nat} {t t' : Task H} {w w' : World H}
    {es es' : List Event} {p : Polled H} (h : watchPolls ns t w = ⟨es, some (t', w')⟩)
    (hp : watch n t' w' = ⟨es', some p⟩) :
    watchPolls (ns ++ [n]) t w = ⟨es ++ es', some (p.task, p.world)⟩ := by
  -- on the polls before it
  induction ns generalizing t w es with
  | nil =>
    cases h
    have hpure : watchPolls [] p.task p.world = ⟨[], some (p.task, p.world)⟩ := rfl
    have hlast := Watched.bind_of_eq (f := fun p => watchPolls [] p.task p.world) hp hpure
    rw [List.append_nil] at hlast
    exact hlast
  | cons m ns ih =>
    rcases Watched.exists_of_bind h with ⟨first, q, next, hfirst, hnext, rfl⟩
    have hrest := Watched.bind_of_eq (f := fun p => watchPolls (ns ++ [n]) p.task p.world) hfirst
      (ih hnext)
    rw [List.append_assoc]
    exact hrest

/-- A body alone keeps what its render keeps. -/
theorem leads_watchAlone {K : List Event → World H → World H → Prop} (hK : World.Traces K)
    (block : CustomBlock) (i : Nat) (frame : Frame) (child : Nat) (polls : List Nat)
    (w : World H) : (watchAlone block i frame child polls w).Leads K w (·.2) := by
  have hpolls : ∀ (ns : List Nat) (t : Task H) (w : World H),
      (watchPolls ns t w).Leads K w (·.2) := by
    intro ns
    induction ns with
    | nil => exact fun t w => hK.pure rfl
    | cons n ns ih => exact fun t w => hK.bind (hK.watch n t) fun p => ih p.task p.world
  exact hK.bind (hK.watchBody block i frame child) fun r => hpolls polls r.1 r.2

/-- One poll more of a body alone. -/
theorem watchAlone_concat {block : CustomBlock} {i : Nat} {frame : Frame} {child : Nat}
    {polls : List Nat} {n : Nat} {t : Task H} {w w' : World H} {es es' : List Event}
    {p : Polled H} (h : watchAlone block i frame child polls w = ⟨es, some (t, w')⟩)
    (hp : watch n t w' = ⟨es', some p⟩) :
    watchAlone block i frame child (polls ++ [n]) w =
      ⟨es ++ es', some (p.task, p.world)⟩ := by
  rcases Watched.exists_of_bind h with ⟨first, r, next, hstart, hpolls, rfl⟩
  have hrest := Watched.bind_of_eq (f := fun r => watchPolls (polls ++ [n]) r.1 r.2) hstart
    (watchPolls_concat hpolls hp)
  rw [List.append_assoc]
  exact hrest

end Task

/-! ## Interleaved bodies -/

/-- A body that a helper has started. -/
structure Child (H : Host) where
  /-- The number of the body. -/
  body : Nat
  frame : Frame
  /-- For how many steps it was polled, each time. -/
  polls : List Nat
  task : Task H

/-- What has been seen, and which child it was seen of, if it was one of the children. -/
abbrev Log := List (Option Nat × Event)

/-- What is seen of someone. -/
def Log.of (who : Option Nat) (es : List Event) : Log := es.map fun ev => (who, ev)

/-- What was seen of a child. -/
def Log.child (c : Nat) (log : Log) : List Event :=
  (log.filter fun entry => entry.1 = some c).map (·.2)

/-- All that was seen. -/
def Log.events (log : Log) : List Event := log.map (·.2)

/-- Whether a child that renders a fragment is the only one to have declared it. -/
def Log.KeepsApart (log : Log) : Prop :=
  ∀ c ev name, (some c, ev) ∈ log → ev.rendered? = some name →
    ∀ who ev', (who, ev') ∈ log → ev'.declared? = some name → who = some c

/-- Whether the others declare only fragments like these, and the child renders none of them. -/
structure Log.Apart (c : Nat) (foreign : String → Prop) (log : Log) : Prop where
  declared {who : Option Nat} {ev : Event} {name : String} : (who, ev) ∈ log → who ≠ some c →
    ev.declared? = some name → foreign name
  rendered {ev : Event} {name : String} : (some c, ev) ∈ log → ev.rendered? = some name →
    ¬ foreign name

namespace Log

theorem events_append (xs ys : Log) : events (xs ++ ys) = events xs ++ events ys :=
  List.map_append

theorem events_of (who : Option Nat) (es : List Event) : events (of who es) = es := by
  unfold events of
  rw [List.map_map]
  exact List.map_id es

/-- An entry of a longer log is an earlier one or one of those added. -/
theorem mem_append_of {log : Log} {who who' : Option Nat} {ev : Event} {es : List Event} :
    (who, ev) ∈ log ++ of who' es ↔ (who, ev) ∈ log ∨ who = who' ∧ ev ∈ es := by
  rw [List.mem_append]
  refine or_congr_right ?_
  constructor
  · intro hmem
    rcases List.mem_map.1 hmem with ⟨_, hev, heq⟩
    cases heq
    exact ⟨rfl, hev⟩
  · rintro ⟨rfl, hev⟩
    exact List.mem_map.2 ⟨ev, hev, rfl⟩

/-- The entries of a child in two logs, one behind the other. -/
theorem child_append (c : Nat) (xs ys : Log) : child c (xs ++ ys) = child c xs ++ child c ys := by
  unfold child
  rw [List.filter_append, List.map_append]

/-- All its own entries are those of a child. -/
theorem child_of_self (c : Nat) (es : List Event) : child c (of (some c) es) = es := by
  have hall : (of (some c) es).filter (fun entry => entry.1 = some c) = of (some c) es := by
    refine List.filter_eq_self.2 fun entry hentry => ?_
    rcases List.mem_map.1 hentry with ⟨ev, -, rfl⟩
    exact decide_eq_true rfl
  unfold child
  rw [hall]
  exact events_of (some c) es

/-- Those of another are not. -/
theorem child_of_ne {who : Option Nat} {c : Nat} (h : who ≠ some c) (es : List Event) :
    child c (of who es) = [] := by
  have hnone : (of who es).filter (fun entry => entry.1 = some c) = [] := by
    refine List.filter_eq_nil_iff.2 fun entry hentry => ?_
    rcases List.mem_map.1 hentry with ⟨ev, -, rfl⟩
    simpa using h
  unfold child
  rw [hnone, List.map_nil]

/-- Children that stay apart in a log stay apart in what it begins with. -/
theorem Apart.left {c : Nat} {foreign : String → Prop} {log more : Log}
    (h : Apart c foreign (log ++ more)) : Apart c foreign log where
  declared hmem := h.declared (List.mem_append_left more hmem)
  rendered hmem := h.rendered (List.mem_append_left more hmem)

/-- Among what a child does next, nothing asks for what others have declared. -/
theorem Apart.own {c : Nat} {foreign : String → Prop} {log : Log} {es : List Event}
    (h : Apart c foreign (log ++ of (some c) es)) :
    ∀ ev ∈ es, ¬ ∃ name, foreign name ∧ ev.rendered? = some name := by
  rintro ev hev ⟨name, hforeign, hname⟩
  exact h.rendered (mem_append_of.2 (.inr ⟨rfl, hev⟩)) hname hforeign

end Log

section Interleaved

variable [Evaluator] {F : Functions}

/-- What a helper has made of the bodies of a block: the children it has started, the world they
are in by now, and what has been seen of them since. It starts bodies and polls children, in any
order; whatever else goes on, be it what the helper writes itself, evolves the world. -/
inductive Interleaved (block : CustomBlock) (w₀ : World F.host) :
    List (Child F.host) → World F.host → Log → Prop
  | begin : Interleaved block w₀ [] w₀ []
  | start {children : List (Child F.host)} {w w' : World F.host} {log : Log} {es : List Event}
      {t : Task F.host} (i : Nat) (frame : Frame) :
      Interleaved block w₀ children w log →
      Task.watchBody block i frame children.length w = ⟨es, some (t, w')⟩ →
      Interleaved block w₀ (children ++ [⟨i, frame, [], t⟩]) w'
        (log ++ Log.of (some children.length) es)
  | poll {children : List (Child F.host)} {w : World F.host} {log : Log} {es : List Event}
      {child : Child F.host} {p : Polled F.host} (c n : Nat) :
      Interleaved block w₀ children w log → children[c]? = some child →
      Task.watch n child.task w = ⟨es, some p⟩ →
      Interleaved block w₀
        (children.set c { child with polls := child.polls ++ [n], task := p.task }) p.world
        (log ++ Log.of (some c) es)
  | others {children : List (Child F.host)} {w w' : World F.host} {log : Log} {es : List Event} :
      Interleaved block w₀ children w log → World.Evolves es w w' →
      Interleaved block w₀ children w' (log ++ Log.of none es)

variable {block : CustomBlock} {w₀ w : World F.host} {children : List (Child F.host)} {log : Log}

namespace Interleaved

/-- Whatever the order, the world is what all that was seen has made of it. -/
theorem evolves (h : Interleaved block w₀ children w log) :
    World.Evolves log.events w₀ w := by
  have hseen : ∀ {log : Log} {who : Option Nat} {es : List Event} {w w' : World F.host},
      World.Evolves log.events w₀ w → World.Evolves es w w' →
        World.Evolves (log ++ Log.of who es).events w₀ w' := by
    intro log who es w w' hlog hes
    rw [Log.events_append, Log.events_of]
    exact hlog.trans hes
  induction h with
  | begin => exact .of_silent w₀ rfl
  | start _ _ _ hstart ih => exact hseen ih (World.evolves_of_watchBody hstart)
  | poll _ _ _ _ hpoll ih => exact hseen ih (World.evolves_of_watch hpoll)
  | others _ hothers ih => exact hseen ih hothers

/-- Nothing is seen of a child that has not been started. -/
theorem lt_of_mem (h : Interleaved block w₀ children w log) {c : Nat} {ev : Event}
    (hmem : (some c, ev) ∈ log) : c < children.length := by
  induction h with
  | begin => cases hmem
  | start _ _ _ _ ih =>
    rw [List.length_append, List.length_singleton]
    rcases Log.mem_append_of.1 hmem with hbefore | ⟨heq, -⟩
    · have hlt := ih hbefore
      omega
    · cases heq
      omega
  | poll _ _ _ hchild _ ih =>
    rw [List.length_set]
    rcases Log.mem_append_of.1 hmem with hbefore | ⟨heq, -⟩
    · exact ih hbefore
    · cases heq
      exact (List.getElem?_eq_some_iff.1 hchild).1
  | others _ _ ih =>
    rcases Log.mem_append_of.1 hmem with hbefore | ⟨heq, -⟩
    · exact ih hbefore
    · cases heq

/-- Whether what has been done goes on with this, up to these tasks and this world. -/
def GoesOn (block : CustomBlock) (w₀ : World F.host) (log : Log) (es : List Event)
    (tasks : List (Task F.host)) (w : World F.host) : Prop :=
  ∃ children more, Interleaved block w₀ children w (log ++ more) ∧
    children.map (·.task) = tasks ∧ more.events = es

/-- An interleaving goes on where it stands. -/
theorem goesOn (h : Interleaved block w₀ children w log) :
    GoesOn block w₀ log [] (children.map (·.task)) w := by
  have hnow : Interleaved block w₀ children w (log ++ []) := by
    rw [List.append_nil]
    exact h
  exact ⟨children, [], hnow, rfl, rfl⟩

/-- What goes on after some entries goes on before them. -/
theorem GoesOn.after {who : Option Nat} {es es' : List Event} {tasks : List (Task F.host)}
    (h : GoesOn block w₀ (log ++ Log.of who es) es' tasks w) :
    GoesOn block w₀ log (es ++ es') tasks w := by
  rcases h with ⟨children, more, hthen, htasks, hmore⟩
  refine ⟨children, Log.of who es ++ more, ?_, htasks, ?_⟩
  · rw [← List.append_assoc]
    exact hthen
  · rw [Log.events_append, Log.events_of, hmore]

/-- All that a helper does in its turn is to start bodies, to poll children, and to evolve the
world. -/
theorem goesOn_of_turn {n : Nat} {turn : Turn F.Helper} {woken : Bool} {es : List Event}
    {turned : Turned F.host} (h : Interleaved block w₀ children w log)
    (hturn : Task.watchTurn (Task.watch n) block turn (children.map (·.task)) woken w =
      ⟨es, some turned⟩) :
    GoesOn block w₀ log es turned.children turned.world := by
  -- on the instructions of the turn: each is one act of the interleaving
  induction turn generalizing children w log woken es with
  | finish r =>
    cases hturn
    exact h.goesOn
  | wait woken' h' =>
    cases hturn
    exact h.goesOn
  | write text k ih =>
    rcases Watched.exists_of_bind hturn with ⟨first, ⟨r, w'⟩, next, hwrite, hnext, rfl⟩
    have hleads := World.traces_evolves.watchNow (w := w) (block.channel.write text)
    rw [hwrite] at hleads
    exact (ih r (h.others (hleads _ rfl)) hnext).after
  | halt k ih =>
    rcases Watched.exists_of_bind hturn with ⟨first, ⟨r, w'⟩, next, hhalt, hnext, rfl⟩
    have hleads := w.evolves_answer .halt
    rw [hhalt] at hleads
    exact (ih (h.others (hleads _ rfl)) hnext).after
  | isHalted k ih =>
    rcases Watched.exists_of_bind hturn with ⟨first, ⟨r, w'⟩, next, hasked, hnext, rfl⟩
    have hleads := w.evolves_answer .isHalted
    rw [hasked] at hleads
    exact (ih r (h.others (hleads _ rfl)) hnext).after
  | start i frame k ih =>
    rcases Watched.exists_of_bind hturn with ⟨first, ⟨t, w'⟩, next, hstart, hnext, rfl⟩
    rw [List.length_map] at hstart
    have hstarted := h.start i frame hstart
    have htasks : (children ++ [(⟨i, frame, [], t⟩ : Child F.host)]).map (·.task) =
        children.map (·.task) ++ [t] := List.map_append
    rw [← htasks] at hnext
    exact (ih _ hstarted hnext).after
  | poll c k ih =>
    rw [Task.watchTurn, List.getElem?_map] at hturn
    cases hc : children[c]? with
    | none =>
      rw [hc] at hturn
      exact ih _ h hturn
    | some child =>
      rw [hc] at hturn
      rcases Watched.exists_of_bind hturn with ⟨first, p, next, hpoll, hnext, rfl⟩
      have hpolled := h.poll c n hc hpoll
      rw [← List.map_set (f := fun child : Child F.host => child.task)
        (a := { child with polls := child.polls ++ [n], task := p.task })] at hnext
      exact (ih _ hpolled hnext).after

end Interleaved

/-! ## One body among others -/

/-- Whether a child does in this world what it does when it is run alone: the same has been seen
of it, it has come to the same, and the world is the same to it. -/
def Child.IsAsAlone (block : CustomBlock) (w₀ : World F.host) (foreign : String → Prop) (c : Nat)
    (child : Child F.host) (w : World F.host) (log : Log) : Prop :=
  ∃ v, Task.watchAlone block child.body child.frame c child.polls w₀ =
      ⟨log.child c, some (child.task, v)⟩ ∧ w.AlikeBut foreign v

section Child

variable {foreign : String → Prop} {c : Nat} {w' : World F.host} {es : List Event}

/-- A child does not notice what others do. -/
theorem Child.IsAsAlone.others {child : Child F.host} {who : Option Nat}
    (h : child.IsAsAlone block w₀ foreign c w log) (hwho : who ≠ some c)
    (hes : World.Evolves es w w') (hrunning : w'.halted = false)
    (hapart : Log.Apart c foreign (log ++ Log.of who es)) :
    child.IsAsAlone block w₀ foreign c w' (log ++ Log.of who es) := by
  rcases h with ⟨v, halone, halike⟩
  have hforeign : ∀ ev ∈ es, ∀ name, ev.declared? = some name → foreign name := by
    intro ev hev name hname
    exact hapart.declared (Log.mem_append_of.2 (.inr ⟨rfl, hev⟩)) hwho hname
  refine ⟨v, ?_, halike.evolves hes hrunning hforeign⟩
  rw [Log.child_append, Log.child_of_ne hwho, List.append_nil]
  exact halone

/-- What a child does next, it does alone as well, unless it renders what others have declared. -/
theorem Child.IsAsAlone.poll {child : Child F.host} {n : Nat} {p : Polled F.host}
    (h : child.IsAsAlone block w₀ foreign c w log)
    (hpoll : Task.watch n child.task w = ⟨es, some p⟩)
    (hapart : Log.Apart c foreign (log ++ Log.of (some c) es)) :
    Child.IsAsAlone block w₀ foreign c { child with polls := child.polls ++ [n], task := p.task }
      p.world (log ++ Log.of (some c) es) := by
  rcases h with ⟨v, halone, halike⟩
  have hagree := (World.stayAlike_alikeBut foreign).agree_watch halike n child.task
  rcases hagree.exists_of_eq hpoll hapart.own with ⟨⟨t, woken, v'⟩, hv, htask, -, halike'⟩
  refine ⟨v', ?_, halike'⟩
  rw [Log.child_append, Log.child_of_self, htask]
  exact Task.watchAlone_concat halone hv

/-- The start of a body, which does not notice what has been done before by others. -/
theorem Child.isAsAlone_start {i : Nat} {frame : Frame} {t : Task F.host}
    (hbefore : World.Evolves log.events w₀ w) (hrunning : w.halted = false)
    (hnone : ∀ ev, (some c, ev) ∉ log)
    (hstart : Task.watchBody block i frame c w = ⟨es, some (t, w')⟩)
    (hapart : Log.Apart c foreign (log ++ Log.of (some c) es)) :
    Child.IsAsAlone block w₀ foreign c ⟨i, frame, [], t⟩ w' (log ++ Log.of (some c) es) := by
  have hforeign : ∀ ev ∈ log.events, ∀ name, ev.declared? = some name → foreign name := by
    intro ev hev name hname
    rcases List.mem_map.1 hev with ⟨⟨who, _⟩, hmem, rfl⟩
    have hwho : who ≠ some c := by
      rintro rfl
      exact hnone _ hmem
    exact hapart.left.declared hmem hwho hname
  -- what the others declared is foreign to the child, so it cannot tell that they ran
  have halike : w.AlikeBut foreign w₀ := (World.AlikeBut.refl w₀).evolves hbefore hrunning hforeign
  have hagree := (World.stayAlike_alikeBut foreign).agree_watchBody halike block i frame c
  rcases hagree.exists_of_eq hstart hapart.own with ⟨⟨_, v⟩, hv, rfl, halike'⟩
  have hchild : log.child c = [] := by
    unfold Log.child
    rw [List.map_eq_nil_iff, List.filter_eq_nil_iff]
    rintro ⟨who, ev⟩ hmem hwho
    have heq : who = some c := of_decide_eq_true hwho
    exact hnone ev (heq ▸ hmem)
  refine ⟨v, ?_, halike'⟩
  rw [Log.child_append, Log.child_of_self, hchild, List.nil_append]
  have hpolls : Task.watchPolls [] t v = ⟨[], some (t, v)⟩ := rfl
  have halone := Watched.bind_of_eq (f := fun r => Task.watchPolls [] r.1 r.2) hv hpolls
  rw [List.append_nil] at halone
  exact halone

/-- A child does what it does alone, as long as nothing is stopped and it renders no fragment that
another has declared. -/
theorem Interleaved.isAsAlone (h : Interleaved block w₀ children w log)
    (hrunning : w.halted = false) (hapart : Log.Apart c foreign log) {child : Child F.host}
    (hchild : children[c]? = some child) : child.IsAsAlone block w₀ foreign c w log := by
  induction h generalizing child with
  | begin => cases hchild
  | @start children w w' log es t i frame hbefore hstart ih =>
    have hes := World.evolves_of_watchBody hstart
    rcases Nat.lt_trichotomy c children.length with hlt | rfl | hgt
    · -- the child is one of those that have been started before
      rw [List.getElem?_append_left hlt] at hchild
      have hne : some children.length ≠ some c := by
        intro heq
        have := Option.some.inj heq
        omega
      exact (ih (hes.running hrunning) hapart.left hchild).others hne hes hrunning hapart
    · rw [List.getElem?_concat_length] at hchild
      cases hchild
      have hnone : ∀ ev, (some children.length, ev) ∉ log := by
        intro ev hmem
        exact absurd (hbefore.lt_of_mem hmem) (Nat.lt_irrefl _)
      exact Child.isAsAlone_start hbefore.evolves (hes.running hrunning) hnone hstart hapart
    · have hlt := (List.getElem?_eq_some_iff.1 hchild).1
      rw [List.length_append, List.length_singleton] at hlt
      omega
  | @poll children w log es polled p d n hbefore hpolled hpoll ih =>
    have hes := World.evolves_of_watch hpoll
    by_cases heq : d = c
    · subst heq
      have hlt := (List.getElem?_eq_some_iff.1 hpolled).1
      rw [List.getElem?_set_self hlt] at hchild
      cases hchild
      exact (ih (hes.running hrunning) hapart.left hpolled).poll hpoll hapart
    · rw [List.getElem?_set_ne heq] at hchild
      have hne : some d ≠ some c := fun h => heq (Option.some.inj h)
      exact (ih (hes.running hrunning) hapart.left hchild).others hne hes hrunning hapart
  | others _ hes ih =>
    exact (ih (hes.running hrunning) hapart.left hchild).others (fun h => (nomatch h)) hes hrunning
      hapart

end Child

/-- Bodies that a helper runs at the same time do not interfere, whatever the order in which it
starts and polls them, as long as nothing is stopped and no body renders a fragment that another
has declared: the same is seen of a body as when it is run alone and polled as often, it comes to
the same, and writes the same texts in the same order. What has been written by all is what the
sink has stored. -/
theorem Interleaved.runs_as_alone (h : Interleaved block w₀ children w log)
    (hrunning : w.halted = false) (hapart : log.KeepsApart) :
    w.host = w₀.host ++ written log.events ∧
      ∀ c child, children[c]? = some child →
        ∃ v, Task.watchAlone block child.body child.frame c child.polls w₀ =
            ⟨log.child c, some (child.task, v)⟩ ∧
          v.host = w₀.host ++ written (log.child c) := by
  refine ⟨h.evolves.texts, fun c child hchild => ?_⟩
  -- foreign to the child is what has been declared by anyone else
  have hforeign : Log.Apart c
      (fun name => ∃ who ev, (who, ev) ∈ log ∧ who ≠ some c ∧ ev.declared? = some name) log := by
    constructor
    · intro who ev name hmem hwho hname
      exact ⟨who, ev, hmem, hwho, hname⟩
    · rintro ev name hmem hname ⟨who, ev', hmem', hwho, hname'⟩
      exact hwho (hapart c ev name hmem hname who ev' hmem' hname')
  rcases h.isAsAlone hrunning hforeign hchild with ⟨v, halone, -⟩
  have hleads := Task.leads_watchAlone World.traces_evolves block child.body child.frame c
    child.polls w₀
  rw [halone] at hleads
  exact ⟨v, halone, (hleads _ rfl).texts⟩

end Interleaved

/-! ## Two bodies -/

/-- Functions whose result is there after as many polls as their number says. -/
@[reducible] def Functions.late : Functions where
  Pending := Nat
  Helper := Empty
  call f _ _ := .pending true f
  poll
    | 0 => .ready (.ok (.text ""))
    | n + 1 => .pending true n
  help _ _ _ := none
  turn h := nomatch h

/-- The result of the function of this name is written. -/
def Step.resultOf (name : String) : Step :=
  .output ⟨none, [⟨none, name, [], none, none⟩], [], none⟩ [.slot 0]

/-- A block whose first body waits longer than its second, inside of a modifier of its own. -/
def CustomBlock.slowAndQuick : CustomBlock where
  channel := []
  frame := .ofData (.object (.given 0) (.ofList [("slow", .function 1), ("quick", .function 0)]))
  site := .start 0
  bodies := [
    .mk [.choice [.mk ⟨none, [], [⟨"upper", []⟩], none⟩ none (.mk [.resultOf "slow", .text "a"])]],
    .mk [.resultOf "quick", .text "b"]]

/-- The world in which these bodies are run. -/
def World.late : World Functions.late.host := .start [] .empty .builtin false

/-- Both bodies are started before either is polled, and the second is through first. -/
theorem Interleaved.runs_as_alone_slowAndQuick :
    ∃ children w log, Interleaved .slowAndQuick World.late children w log ∧ w.halted = false ∧
      log.KeepsApart ∧ w.host = ["b", "A"] ∧
      written (log.child 0) = ["A"] ∧ written (log.child 1) = ["b"] ∧
      w.host = World.late.host ++ written log.events ∧
      ∀ c child, children[c]? = some child →
        ∃ v, Task.watchAlone .slowAndQuick child.body child.frame c child.polls World.late =
            ⟨log.child c, some (child.task, v)⟩ ∧
          v.host = World.late.host ++ written (log.child c) := by
  have hbegin : Interleaved .slowAndQuick World.late [] World.late [] := .begin
  have hfirst := hbegin.start 0 CustomBlock.slowAndQuick.frame rfl
  have hboth := hfirst.start 1 CustomBlock.slowAndQuick.frame rfl
  -- both wait for their calls, the second once, the first twice
  have hwaits := hboth.poll 0 20 rfl rfl
  have hwait := hwaits.poll 1 20 rfl rfl
  have hquick := hwait.poll 1 20 rfl rfl
  have hslow := (hquick.poll 0 20 rfl rfl).poll 0 20 rfl rfl
  have hapart : ∀ log : Log, (log.all fun entry => entry.2.rendered?.isNone) = true →
      log.KeepsApart := by
    intro log hall c ev name hmem hname
    have hev := List.all_eq_true.1 hall _ hmem
    rw [hname] at hev
    cases hev
  have hends := hslow.runs_as_alone rfl (hapart _ rfl)
  exact ⟨_, _, _, hslow, rfl, hapart _ rfl, rfl, rfl, rfl, hends⟩

end Stencil
