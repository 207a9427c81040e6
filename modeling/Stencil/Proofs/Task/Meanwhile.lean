import Stencil.Proofs.Catalog
import Stencil.Proofs.Task.Beside
import Stencil.Proofs.Task.Functions

/-!
# Stencil.Proofs.Task.Meanwhile — what a render can tell of the others

When functions and helpers have no memory, what is left of a render in the world are the texts it
has written, the fragments it has declared, and whether it has been stopped
(`World.traces_evolves`). Another render can tell no more than that: in worlds that are alike but
for fragments that it does not ask for, it does the same (`World.stayAlike_alikeBut`).
-/

namespace Stencil

/-! ## Fragments -/

/-- The name under which a fragment is declared. -/
def Event.declared? : Event → Option String
  | .asked (.declare name _) => some name
  | _ => none

/-- The name of a fragment that is to be rendered. -/
def Event.rendered? : Event → Option String
  | .asked (.resolve name) => some name
  | _ => none

section Declare

variable {H : Host} (w : World H) (name : String) (fragment : Fragment)

/-- What was just declared is found under its name. -/
theorem World.lookup_declare_self :
    (w.declare name fragment).fragments.lookup name = some fragment :=
  List.lookup_cons_self

/-- A declaration touches no other name. -/
theorem World.lookup_declare_of_ne {other : String} (h : other ≠ name) :
    (w.declare name fragment).fragments.lookup other = w.fragments.lookup other := by
  have hfilter : ∀ entries : List (String × Fragment),
      (entries.filter (·.1 ≠ name)).lookup other = entries.lookup other := by
    intro entries
    induction entries with
    | nil => rfl
    | cons entry entries ih =>
      rcases entry with ⟨key, kept⟩
      by_cases hkey : key = name
      · -- the entry is dropped, and it is not the one that is looked up
        rw [List.filter_cons_of_neg (by simp [hkey]), ih, List.lookup_cons, hkey,
          beq_false_of_ne h]
      · rw [List.filter_cons_of_pos (by simp [hkey]), List.lookup_cons, List.lookup_cons, ih]
  unfold declare
  rw [List.lookup_cons, beq_false_of_ne h]
  exact hfilter w.fragments

end Declare

/-! ## What is left of a render -/

section Evolve

variable {F : Functions}

/-- What is left in the world of that which is seen: the texts that were written, and the fragments
that were declared. Nothing else that a render can tell has changed, unless it has been stopped. -/
structure World.Evolves (es : List Event) (w w' : World F.host) : Prop where
  texts : w'.host = w.host ++ written es
  running : w'.halted = false → w.halted = false
  modifiers : w'.modifiers = w.modifiers
  template (name : String) :
    (w'.catalog.get w'.debug name).1 = (w.catalog.get w.debug name).1
  fragment (name : String) : (∀ ev ∈ es, ev.declared? ≠ some name) →
    w'.fragments.lookup name = w.fragments.lookup name

namespace World

/-- Only texts are left. -/
theorem Evolves.of_texts {es : List Event} (w : World F.host) {texts : List String}
    (h : texts = w.host ++ written es) : Evolves es w { w with host := texts } where
  texts := h
  running := id
  modifiers := rfl
  template _ := rfl
  fragment _ _ := rfl

theorem Evolves.of_silent {es : List Event} (w : World F.host) (h : written es = []) :
    Evolves es w w := by
  have htexts : w.host = w.host ++ written es := by rw [h, List.append_nil]
  exact .of_texts w htexts

/-- A world that evolves in two stretches evolves over both. -/
theorem Evolves.trans {es es' : List Event} {w w' w'' : World F.host} (h : Evolves es w w')
    (h' : Evolves es' w' w'') : Evolves (es ++ es') w w'' where
  texts := by rw [h'.texts, h.texts, written_append, List.append_assoc]
  running hrunning := h.running (h'.running hrunning)
  modifiers := h'.modifiers.trans h.modifiers
  template name := (h'.template name).trans (h.template name)
  fragment name hname := by
    have hfirst : ∀ ev ∈ es, ev.declared? ≠ some name := by
      intro ev hev
      exact hname ev (List.mem_append_left es' hev)
    have hthen : ∀ ev ∈ es', ev.declared? ≠ some name := by
      intro ev hev
      exact hname ev (List.mem_append_right es hev)
    exact (h'.fragment name hthen).trans (h.fragment name hfirst)

/-- A text changes nothing but the state of the sink. -/
theorem exists_write (w : World F.host) (text : String) :
    ∃ texts, (w.write text).2 = { w with host := texts } := by
  rcases w.write_eq text with heq | ⟨-, heq⟩ | ⟨-, heq⟩
  · exact ⟨w.host, congrArg Prod.snd heq⟩
  · exact ⟨w.host, congrArg Prod.snd heq⟩
  · exact ⟨_, congrArg Prod.snd heq⟩

/-- Whatever a render answers itself makes its world evolve by the events it shows. -/
theorem evolves_answer (w : World F.host) (q : Request) :
    (w.watchAnswer q).Leads Evolves w (·.2) := by
  intro a ha
  unfold watchAnswer at ha ⊢
  cases q with
  | call | custom | enter => cases ha
  | isHalted | modify | resolve =>
    cases ha
    exact .of_silent w rfl
  | write text =>
    cases ha
    have hhost := F.stores_host.written_write w text
    rcases w.exists_write text with ⟨texts, heq⟩
    have hwrote : Evolves [.asked (.write text), .answered (.write text) (w.write text).1] w
        (w.write text).2 := by
      rw [heq] at hhost ⊢
      exact .of_texts w hhost
    exact hwrote
  | halt =>
    cases ha
    have hsilent : Evolves [.asked .halt, .answered .halt ()] w w := .of_silent w rfl
    exact { hsilent with running := fun h => (nomatch h) }
  | declare name fragment =>
    cases ha
    have hsilent : Evolves
        [.asked (.declare name fragment), .answered (.declare name fragment) ()] w w :=
      .of_silent w rfl
    refine { hsilent with fragment := ?_ }
    intro other hother
    have hne : other ≠ name := by
      intro heq
      exact hother _ List.mem_cons_self (congrArg some heq.symm)
    exact w.lookup_declare_of_ne name fragment hne
  | template name =>
    cases ha
    have hsilent : Evolves
        [.asked (.template name), .answered (.template name) (w.template name).1] w w :=
      .of_silent w rfl
    refine { hsilent with template := ?_ }
    intro other
    exact w.catalog.get_get w.debug name other

/-- What a render does is told by what is seen of it. -/
theorem traces_evolves : Traces (Evolves (F := F)) where
  refl w := .of_silent w rfl
  trans h h' := h.trans h'
  asked w q := .of_silent w rfl
  answer := evolves_answer
  call w f frame args a ha := by
    cases ha
    exact .of_silent w (written_resultEvents (F.call f frame args))
  poll w d a ha := by
    cases ha
    exact .of_silent w (written_resultEvents (F.poll d))
  help w f block a ha := by
    cases ha
    exact .of_silent w rfl
  turn w h := .of_silent w rfl

variable [Evaluator] {w w' : World F.host} {es : List Event}

theorem evolves_of_watchBody {block : CustomBlock} {i : Nat} {frame : Frame} {child : Nat}
    {t : Task F.host} (h : Task.watchBody block i frame child w = ⟨es, some (t, w')⟩) :
    Evolves es w w' := by
  have hleads := traces_evolves.watchBody (w := w) block i frame child
  rw [h] at hleads
  exact hleads _ rfl

theorem evolves_of_watch {n : Nat} {t : Task F.host} {p : Polled F.host}
    (h : Task.watch n t w = ⟨es, some p⟩) : Evolves es w p.world := by
  have hleads := traces_evolves.watch (w := w) n t
  rw [h] at hleads
  exact hleads _ rfl

end World

end Evolve

/-! ## What a render can tell -/

/-- Whether worlds are the same to a render, as long as it does not ask for one of these
fragments. -/
structure World.AlikeBut {H : Host} (foreign : String → Prop) (w v : World H) : Prop where
  halted : w.halted = v.halted
  modifiers : w.modifiers = v.modifiers
  template (name : String) :
    (w.catalog.get w.debug name).1 = (v.catalog.get v.debug name).1
  fragment (name : String) : ¬ foreign name → w.fragments.lookup name = v.fragments.lookup name

namespace World

theorem AlikeBut.refl {H : Host} {foreign : String → Prop} (w : World H) : w.AlikeBut foreign w :=
  ⟨rfl, rfl, fun _ => rfl, fun _ _ => rfl⟩

section Alike

variable {H : Host} {foreign : String → Prop} {w v : World H} (h : w.AlikeBut foreign v)
include h

/-- The states of the hosts may differ. -/
theorem AlikeBut.with_host (s t : H.State) :
    AlikeBut foreign { w with host := s } { v with host := t } where
  halted := h.halted
  modifiers := h.modifiers
  template := h.template
  fragment := h.fragment

/-- Both worlds may declare the same. -/
theorem AlikeBut.declare (name : String) (fragment : Fragment) :
    AlikeBut foreign (w.declare name fragment) (v.declare name fragment) where
  halted := h.halted
  modifiers := h.modifiers
  template := h.template
  fragment other hother := by
    by_cases heq : other = name
    · rw [heq, lookup_declare_self, lookup_declare_self]
    · rw [lookup_declare_of_ne _ _ _ heq, lookup_declare_of_ne _ _ _ heq]
      exact h.fragment other hother

end Alike

section Functions

variable {F : Functions} {foreign : String → Prop} {w v : World F.host}

/-- As long as nothing is stopped, others leave nothing behind but fragments. -/
theorem AlikeBut.evolves (h : w.AlikeBut foreign v) {es : List Event} {w' : World F.host}
    (he : Evolves es w w') (hrunning : w'.halted = false)
    (hforeign : ∀ ev ∈ es, ∀ name, ev.declared? = some name → foreign name) :
    w'.AlikeBut foreign v where
  halted := by
    have hbefore : w.halted = false := he.running hrunning
    rw [hrunning, ← h.halted, hbefore]
  modifiers := he.modifiers.trans h.modifiers
  template name := (he.template name).trans (h.template name)
  fragment name hname := by
    have hnone : ∀ ev ∈ es, ev.declared? ≠ some name := by
      intro ev hev hdeclares
      exact hname (hforeign ev hev name hdeclares)
    exact (he.fragment name hnone).trans (h.fragment name hname)

/-- Both write a text alike. -/
theorem AlikeBut.write (h : w.AlikeBut foreign v) (text : String) :
    (w.write text).1 = (v.write text).1 ∧ AlikeBut foreign (w.write text).2 (v.write text).2 := by
  unfold World.write
  by_cases hhalted : v.halted = true
  · rw [if_pos hhalted, if_pos (h.halted.trans hhalted)]
    exact ⟨rfl, h⟩
  rw [if_neg hhalted, if_neg (h.halted ▸ hhalted)]
  by_cases hempty : text = ""
  · rw [if_pos hempty, if_pos hempty]
    exact ⟨rfl, h⟩
  · rw [if_neg hempty, if_neg hempty]
    exact ⟨rfl, h.with_host _ _⟩

/-- Worlds that are alike but for some fragments give the same answers, unless one of these
fragments is asked for. -/
theorem stayAlike_alikeBut (foreign : String → Prop) :
    StayAlike (fun ev => ∃ name, foreign name ∧ ev.rendered? = some name)
      (AlikeBut (H := F.host) foreign) where
  answer {w v} q h := by
    cases q with
    | call | custom | enter => exact .stuck
    | write text =>
      rcases h.write text with ⟨heq, hafter⟩
      exact agree_watchAnswer_of_eq rfl rfl heq hafter
    | isHalted => exact agree_watchAnswer_of_eq rfl rfl h.halted h
    | halt => exact agree_watchAnswer_of_eq rfl rfl rfl { h with halted := rfl }
    | modify name x args =>
      have heq : w.modifiers.apply name x args = v.modifiers.apply name x args := by
        rw [h.modifiers]
      exact agree_watchAnswer_of_eq rfl rfl heq h
    | declare name fragment => exact agree_watchAnswer_of_eq rfl rfl rfl (h.declare name fragment)
    | resolve name =>
      -- only the lookup of a foreign name can tell the two apart, and that is the excepted event
      by_cases hname : foreign name
      · exact .inr ⟨[], _, _, rfl, ⟨name, hname, rfl⟩, List.nil_prefix⟩
      · exact agree_watchAnswer_of_eq rfl rfl (h.fragment name hname) h
    | template name =>
      refine agree_watchAnswer_of_eq rfl rfl (h.template name) { h with template := ?_ }
      intro other
      have hw := w.catalog.get_get w.debug name other
      have hv := v.catalog.get_get v.debug name other
      exact (hw.trans (h.template other)).trans hv.symm
  call f frame args h := .inl ⟨rfl, .some ⟨rfl, h.with_host _ _⟩⟩
  poll d h := .inl ⟨rfl, .some ⟨rfl, h.with_host _ _⟩⟩
  help f block h := .inl ⟨rfl, .some ⟨rfl, h.with_host _ _⟩⟩
  turn h' h := ⟨rfl, h.with_host _ _⟩

end Functions

end World

end Stencil
