import Stencil.Proofs.Block.Scan
import Stencil.Proofs.Segment.Parsed
import Stencil.Proofs.Task.Failure
import Stencil.Proofs.Task.Record
import Stencil.Proofs.Task.Result
import Stencil.Proofs.Walk.Blame
import Stencil.Proofs.Walk.Render

/-!
# Stencil.Proofs.Walk.Report — the places that failed renders report

With details of errors, an error that a directive raises is reported with the place of just this
directive, and one that has been placed within a fragment, a template or a body keeps its place. An
error in writing a literal text is not placed at the text: it has the place of the innermost
iteration around it, or none (`Scope.errors_are_placed_at_directives`).
-/

namespace Stencil

/-! ## What there is to blame -/

/-- Whether everything that is blamed is there among the segments. -/
structure Blame.Within (segments : List Segment) (b : Blame) : Prop where
  directive : ∀ s, b.directive = some s → s ∈ segments ∧ s.kind ≠ .text
  text : b.directive = none → ∃ t ∈ segments, t.kind = .text
  iterations : ∀ s ∈ b.iterations, s ∈ segments ∧ s.kind = .iterator

namespace Blaming

variable {segments : List Segment} {α β : Type}

/-- Whether only these segments are blamed. -/
def Within (segments : List Segment) (x : Blaming α) : Prop :=
  Program.Always (fun r => ∀ b, r = .error b → b.Within segments) x

theorem within_pure (a : α) : Within segments (pure a : Blaming α) := by
  rintro _ ⟨⟩

/-- A sequence blames what its parts do. -/
theorem Within.bind {x : Blaming α} {f : α → Blaming β} (hx : Within segments x)
    (hf : ∀ a, Within segments (f a)) : Within segments (x >>= f) := by
  refine Program.Always.bind hx fun r hr => ?_
  cases r with
  | ok a => exact hf a
  | error b =>
    rintro _ ⟨rfl⟩
    exact hr b rfl

/-- What is blamed on a directive of a list stays within the list. -/
theorem within_blame {s : Segment} (hs : s ∈ segments) (hk : s.kind ≠ .text) (x : Action α) :
    Within segments (x.blame (some s)) := by
  refine Program.Always.bind (Program.always_reaches x) fun r _ => ?_
  cases r with
  | ok a => exact within_pure a
  | error e =>
    rintro _ ⟨rfl⟩
    refine ⟨?_, fun h => (nomatch h), fun _ h => (nomatch h)⟩
    rintro _ ⟨rfl⟩
    exact ⟨hs, hk⟩

/-- A text is to blame only if there is one. -/
theorem within_flush {pending : String} (h : pending ≠ "" → ∃ t ∈ segments, t.kind = .text)
    (channel : Channel) : Within segments ((Walk.flush channel pending).blame none) := by
  unfold Walk.flush
  split
  · exact within_pure ()
  · next hne =>
    refine Program.Always.bind (Program.always_reaches _) fun r _ => ?_
    cases r with
    | ok a => exact within_pure a
    | error e =>
      rintro _ ⟨rfl⟩
      exact ⟨fun _ h => (nomatch h), fun _ => h hne, fun _ h => (nomatch h)⟩

/-- So does what passes an iteration of the list. -/
theorem Within.through {x : Blaming α} (hx : Within segments x) {s : Segment}
    (hs : s ∈ segments) (hk : s.kind = .iterator) : Within segments (x.through s) := by
  refine Program.Always.bind hx fun r hr => ?_
  cases r with
  | ok a => exact within_pure a
  | error b =>
    rintro _ ⟨rfl⟩
    obtain ⟨hdirective, htext, hiterations⟩ := hr b rfl
    refine ⟨hdirective, htext, fun t ht => ?_⟩
    rcases List.mem_append.1 ht with ht | ht
    · exact hiterations t ht
    · exact List.mem_singleton.1 ht ▸ ⟨hs, hk⟩

/-- An iteration blames what its body does in some pass. -/
theorem within_entries {body : Frame → Site → Blaming Unit}
    (h : ∀ frame site, Within segments (body frame site)) (base : Frame) (site : Site)
    (es : Entries) : Within segments (entries body base site es) := by
  fun_induction entries body base site es with
  | case1 => exact within_pure ()
  | case2 es p rest _ ih => exact (h _ _).bind fun _ => ih

end Blaming

namespace Walk

open Blaming (Within within_pure within_blame within_flush within_entries)

variable {segments : List Segment} {debug : Bool}

/-- An iteration blames itself or what its body does. -/
theorem within_blamedIterate {s : Segment} (hs : s ∈ segments) (hk : s.kind = .iterator)
    (e : Expr.Postfix) {body : Channel → Frame → Site → Blaming Unit}
    (hbody : ∀ channel frame site, Within segments (body channel frame site)) (channel : Channel)
    (frame : Frame) (site : Site) :
    Within segments (blamedIterate channel frame site s e body) := by
  have hne : s.kind ≠ .text := by
    rw [hk]
    decide
  refine (within_blame hs hne _).bind fun (es, modifiers) => ?_
  exact (within_entries (hbody _) _ _ es).through hs hk

/-- A branch blames itself, what its body does, or what the others do. -/
theorem within_blamedBranch {s : Segment} (hs : s ∈ segments) (hk : s.kind ≠ .text)
    {body : Channel → Frame → Site → Blaming Unit}
    (hbody : ∀ channel frame site, Within segments (body channel frame site))
    {others : Blaming Unit} (hothers : Within segments others) (channel : Channel) (frame : Frame)
    (site : Site) (k : Nat) :
    Within segments (blamedBranch channel frame site k s body others) := by
  refine (within_blame hs hk _).bind fun holds => ?_
  split
  · exact (within_blame hs hk _).bind fun modifiers => hbody _ _ _
  · exact hothers

/-- A node other than a text is walked through when the texts before it have been written. -/
theorem within_blamedNodes_cons {pending : String}
    (hpending : pending ≠ "" → ∃ t ∈ segments, t.kind = .text) {channel : Channel} {frame : Frame}
    {n : Node} {nodes : List Node}
    (hnode : ∀ site, Within segments (blamedNode debug channel frame site n))
    (hnodes : ∀ site i, Within segments (blamedNodes debug channel frame site i "" nodes))
    (hn : ∀ s, n ≠ .text s) (site : Site) (i : Nat) :
    Within segments (blamedNodes debug channel frame site i pending (n :: nodes)) := by
  rw [blamedNodes]
  · exact (within_flush hpending channel).bind fun _ => (hnode _).bind fun _ => hnodes _ _
  · exact hn

mutual

/-- All that a walk blames is among the segments of its nodes. -/
theorem within_blamedNodes {nodes : List Node} {xs : List Segment} (hflat : Flattens nodes xs)
    (hxs : ∀ s ∈ xs, s ∈ segments) {pending : String}
    (hpending : pending ≠ "" → ∃ t ∈ segments, t.kind = .text) (channel : Channel)
    (frame : Frame) (site : Site) (i : Nat) :
    Within segments (blamedNodes debug channel frame site i pending nodes) := by
  have hempty : "" ≠ "" → ∃ t ∈ segments, t.kind = .text := fun h => absurd rfl h
  cases hflat with
  | nil =>
    rw [blamedNodes]
    exact within_flush hpending channel
  | @text s nodes rest hs h =>
    obtain ⟨hmem, hrest⟩ := List.forall_mem_cons.1 hxs
    rw [blamedNodes]
    -- from here on something is pending only because of this text
    exact within_blamedNodes h hrest (fun _ => ⟨s, hmem, hs⟩) channel frame site i
  | @output s nodes rest hs h =>
    obtain ⟨hmem, hrest⟩ := List.forall_mem_cons.1 hxs
    have hk := Segment.ne_text_of_isSelfContained (Segment.isSelfContained_of_output hs)
    refine within_blamedNodes_cons hpending (fun site => ?_)
      (within_blamedNodes h hrest hempty channel frame) (fun _ heq => by cases heq) site i
    rw [blamedNode]
    exact within_blame hmem hk _
  | @inline s nodes rest hk hs h =>
    obtain ⟨hmem, hrest⟩ := List.forall_mem_cons.1 hxs
    have hk := Segment.ne_text_of_isSelfContained hs
    refine within_blamedNodes_cons hpending (fun site => ?_)
      (within_blamedNodes h hrest hempty channel frame) (fun _ heq => by cases heq) site i
    rw [blamedNode]
    exact within_blame hmem hk _
  | @block s body more c nodes xs ys rest hs hbody hmore hc h =>
    obtain ⟨hmem, hrest⟩ := List.forall_mem_cons.1 hxs
    obtain ⟨hxs, hrest⟩ := List.forall_mem_append.1 hrest
    obtain ⟨hys, hrest⟩ := List.forall_mem_append.1 hrest
    obtain ⟨-, hrest⟩ := List.forall_mem_cons.1 hrest
    have hk := Segment.ne_text_of_opensBlock hs
    have hwalk : ∀ channel frame site,
        Within segments (blamedNodes debug channel frame site 0 "" body) :=
      fun channel frame site => within_blamedNodes hbody hxs hempty channel frame site 0
    refine within_blamedNodes_cons hpending (fun site => ?_)
      (within_blamedNodes h hrest hempty channel frame) (fun _ heq => by cases heq) site i
    rw [blamedNode]
    split
    · next hkind =>
      exact within_blamedBranch hmem hk hwalk
        (within_blamedBranches hmore hys channel frame _ 1) channel frame _ 0
    · next hkind _ => exact within_blamedIterate hmem hkind _ hwalk channel frame _
    · exact within_blame hmem hk _
    · exact within_blame hmem hk _
    · exact within_pure ()
termination_by sizeOf nodes

/-- So do branches behind one another. -/
theorem within_blamedBranches {kind : Kind} {more : List Branch} {ys : List Segment}
    (hflat : FlattensMore kind more ys) (hys : ∀ s ∈ ys, s ∈ segments) (channel : Channel)
    (frame : Frame) (site : Site) (k : Nat) :
    Within segments (blamedBranches debug channel frame site k more) := by
  cases hflat with
  | nil =>
    rw [blamedBranches]
    exact within_pure ()
  | @cons _ s body more xs ys hs hbody hmore =>
    obtain ⟨hmem, hrest⟩ := List.forall_mem_cons.1 hys
    obtain ⟨hxs, hys⟩ := List.forall_mem_append.1 hrest
    have hk : s.kind ≠ .text := fun htext => by
      have hd := Segment.not_delimits_of_text htext
      rw [hs.2.1] at hd
      cases hd
    -- no text is pending where the body of a branch begins
    have hempty : "" ≠ "" → ∃ t ∈ segments, t.kind = .text := fun h => absurd rfl h
    rw [blamedBranches]
    exact within_blamedBranch hmem hk
      (fun channel frame site => within_blamedNodes hbody hxs hempty channel frame site 0)
      (within_blamedBranches hmore hys channel frame site (k + 1)) channel frame site k
termination_by sizeOf more

end

end Walk

/-! ## Reports -/

/-- An error is placed unless it has a place. -/
theorem RenderError.locate_some (e : RenderError) (p : Position) :
    e.locate (some p) = if e.isLocated then e else .located p e := by
  cases e <;> rfl

/-- What is reported is what is blamed. -/
theorem Blaming.exists_of_reaches_reported {α : Type} {debug : Bool} {x : Blaming α}
    {e : RenderError} (h : Program.Reaches (x.reported debug) (.error e)) :
    ∃ b, Program.Reaches x (.error b) ∧ e = b.reported debug := by
  obtain ⟨r, hr, he⟩ := Program.reaches_bind_iff.1 h
  cases r with
  | ok a => cases he
  | error b =>
    cases he
    exact ⟨b, hr, rfl⟩

namespace Scope

/-- A template that is compiled with details of errors runs like the walk that blames all errors on
what they come up in, and so does each body in it. When a render of it fails, the deadline has
passed, or what was written has not arrived, or there is something in the template to blame. An
error for which a directive is to blame has the place of this directive, unless it has come with a
place already: that of a directive in the fragment, template or body that it comes from, which is
kept. But an error in writing a literal text is left without a place; it is given that of the
innermost iteration around the text, if there is one in the template. -/
theorem errors_are_placed_at_directives (segments : List Segment) {scope : Scope}
    (h : compile true segments = .ok scope) :
    ∃ nodes, Node.scan true segments = .ok nodes ∧
      (∀ channel frame site, scope.run channel frame site =
        (Walk.blamedNodes true channel frame site 0 "" nodes).reported true) ∧
      (∀ body, Node.Inside body nodes → ∀ channel frame site,
        (Walk.ready true body).run channel frame site =
          (Walk.blamedNodes true channel frame site 0 "" body).reported true) ∧
      ∀ (H : Host) fuel deadline frame (w w' : World H) e,
        w.render fuel deadline scope frame = some (.error e, w') →
          (∃ milliseconds, deadline.map Deadline.milliseconds = some milliseconds ∧
              e = .timeout milliseconds) ∨
          (∃ w₁ : World H, w₁.flush = (.error e, w')) ∨
          ∃ b, Program.Reaches (Walk.blamedNodes true [] frame (.start 0) 0 "" nodes) (.error b) ∧
            ((∃ s ∈ segments, s.kind ≠ .text ∧ b.directive = some s ∧
                e = if b.cause.isLocated then b.cause else .located s.position b.cause) ∨
              ((∃ t ∈ segments, t.kind = .text) ∧ b.directive = none ∧
                ((b.iterations = [] ∧ e = b.cause) ∨
                  ∃ s ∈ segments, s.kind = .iterator ∧ b.iterations.head? = some s ∧
                    e = if b.cause.isLocated then b.cause else .located s.position b.cause))) := by
  obtain ⟨nodes, hscan, hwalks, hbodies, -⟩ := compile_walks true segments scope h
  have hrun : ∀ channel frame site, scope.run channel frame site =
      (Walk.blamedNodes true channel frame site 0 "" nodes).reported true :=
    fun channel frame site => (hwalks.run_eq channel frame site).trans
      (Walk.reported_blamedNodes true nodes channel frame site 0 "").symm
  refine ⟨nodes, hscan, hrun, fun body hin channel frame site => ?_, ?_⟩
  · exact ((hbodies body hin).run_eq channel frame site).trans
      (Walk.reported_blamedNodes true body channel frame site 0 "").symm
  intro H fuel deadline frame w w' e hrender
  -- a render fails at its deadline, at the flush, or with what the program reaches
  obtain htimeout | hflush | hreaches := World.reaches_of_render hrender
  · exact .inl htimeout
  · exact .inr (.inl hflush)
  rw [hrun] at hreaches
  obtain ⟨b, hb, rfl⟩ := Blaming.exists_of_reaches_reported hreaches
  have hwithin : b.Within segments :=
    (Walk.within_blamedNodes (Node.flattens_of_scan hscan) (fun s hs => hs)
      (fun h => absurd rfl h) [] frame (.start 0) 0).of_reaches hb b rfl
  refine .inr (.inr ⟨b, hb, ?_⟩)
  obtain ⟨cause, directive, iterations⟩ := b
  cases directive with
  | some s =>
    obtain ⟨hs, hk⟩ := hwithin.directive s rfl
    exact .inl ⟨s, hs, hk, rfl, cause.locate_some s.position⟩
  | none =>
    refine .inr ⟨hwithin.text rfl, rfl, ?_⟩
    cases iterations with
    | nil => exact .inl ⟨rfl, cause.locate_none⟩
    | cons s rest =>
      obtain ⟨hs, hk⟩ := hwithin.iterations s List.mem_cons_self
      exact .inr ⟨s, hs, hk, rfl, cause.locate_some s.position⟩

end Scope

namespace Segment

/-- A line of text, and a call at the start of the next. -/
def textAndCall : List Segment :=
  [ofString "one\n", ⟨.output, ⟨4, 2, 1⟩, none, none, some [.call "f" [] none], [], false, false⟩]

end Segment

namespace Scope

/-- What `Segment.textAndCall` is compiled to with details. -/
def textAndCall : Scope :=
  .mk [.text "one\n",
    .output ⟨none, [⟨none, "f", [], none, some ⟨4, 2, 1⟩⟩], [], some ⟨4, 2, 1⟩⟩ [.slot 0]]

/-- A call that fails behind a text, placed at the directive it stands in. -/
theorem errors_are_placed_at_directives_call :
    compile true Segment.textAndCall = .ok textAndCall ∧
      ∃ w', (World.start (H := Host.failing) () .empty .builtin true).render 9 none textAndCall
          (.ofData (.object (.given 0) (.ofList [("f", .function 1)]))) =
            some (.error (.located ⟨4, 2, 1⟩ (.callback "boom")), w') ∧
        ∃ nodes b, Node.scan true Segment.textAndCall = .ok nodes ∧
          Program.Reaches (Walk.blamedNodes true []
            (.ofData (.object (.given 0) (.ofList [("f", .function 1)]))) (.start 0) 0 "" nodes)
            (.error b) := by
  let frame := Frame.ofData (.object (.given 0) (.ofList [("f", .function 1)]))
  let w : World Host.failing := World.start () .empty .builtin true
  have hcompile : compile true Segment.textAndCall = .ok textAndCall := by cbv
  have hrun : (w.render 9 none textAndCall frame).map (·.1) =
      some (.error (.located ⟨4, 2, 1⟩ (.callback "boom"))) := rfl
  obtain ⟨⟨_, w'⟩, hrender, rfl⟩ := Option.map_eq_some_iff.1 hrun
  refine ⟨hcompile, w', hrender, ?_⟩
  obtain ⟨nodes, hscan, -, -, herror⟩ := errors_are_placed_at_directives _ hcompile
  obtain ⟨_, hdeadline, -⟩ | ⟨_, hflush⟩ | ⟨b, hb, -⟩ := herror _ _ _ _ _ _ _ hrender
  · cases hdeadline
  · cases hflush
  · exact ⟨nodes, b, hscan, hb⟩

/-- An error in writing a literal text has no place, although details of errors are asked for. -/
theorem text_error_is_not_placed :
    compileText true "ab" = .ok (.mk [.text "ab"]) ∧
      ((World.start (H := Host.mute.limited (.io "sink full")) ((), some 0) .empty .builtin
          true).render 9 none (.mk [.text "ab"]) (.ofData .undefined)).map (·.1) =
        some (.error (.io "sink full")) ∧
      (RenderError.io "sink full").isLocated = false :=
  ⟨by cbv, rfl, rfl⟩

end Scope

end Stencil
