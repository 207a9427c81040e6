import Stencil.Expr.Parser
import Stencil.Proofs.Except

/-!
# Stencil.Proofs.Expr.Offset — where faults are placed

Every lexeme of a text, and the place where the lexemes stop, stands between two characters of
the text (`Lexemes.between_scan`). An error of the parser is at one of these places
(`Postfix.between_of_parse`, `Postfix.between_of_parseList`).
-/

namespace Stencil

/-- The offset is that of a place between two characters, or at an end, of a text that stands
`base` bytes into another. -/
def Text.IsBetween (base : Nat) (cs : List Char) (offset : Nat) : Prop :=
  ∃ u v, cs = u ++ v ∧ offset = base + size u

namespace Text.IsBetween

variable {base offset : Nat} {cs : List Char}

/-- The beginning is at an offset of the text. -/
theorem start (base : Nat) (cs : List Char) : IsBetween base cs base := ⟨[], cs, rfl, rfl⟩

/-- Between two characters of the rest is between two of the whole. -/
theorem append (u : List Char) (h : IsBetween (base + size u) cs offset) :
    IsBetween base (u ++ cs) offset := by
  obtain ⟨v, w, rfl, rfl⟩ := h
  refine ⟨u ++ v, w, (List.append_assoc ..).symm, ?_⟩
  rw [size_append, Nat.add_assoc]

end Text.IsBetween

namespace Expr

open Text

/-- Where the lexemes of a text stop. -/
def Ending.offset : Ending → Nat
  | finish offset => offset
  | fault e => e.offset

namespace Lexemes

/-- Every lexeme and the ending stand between two characters. -/
structure Between (base : Nat) (cs : List Char) (xs : Lexemes) : Prop where
  items : ∀ x ∈ xs.items, IsBetween base cs x.offset
  ending : IsBetween base cs xs.ending.offset

/-- A symbol within a piece of the text comes before those in the rest. -/
theorem Between.cons {base : Nat} {u cs : List Char} {xs : Lexemes} {x : Lexeme}
    (hx : IsBetween base (u ++ cs) x.offset) (h : xs.Between (base + size u) cs) :
    Between base (u ++ cs) ⟨x :: xs.items, xs.ending⟩ := by
  refine ⟨fun y hy => ?_, h.ending.append u⟩
  rcases List.mem_cons.1 hy with rfl | hy
  · exact hx
  · exact (h.items y hy).append u

/-- The blanks and what is behind them make up what was there. -/
theorem append_of_trimStart {cs rest : List Char} (h : trimStart cs = rest) :
    cs.takeWhile isBlank ++ rest = cs := by
  rw [← h]
  exact List.takeWhile_append_dropWhile

/-- All symbols begin within the text, and so does what ends them. -/
theorem between_scan (previous : Option Symbol) (base : Nat) (cs : List Char) :
    (scan previous base cs).Between base cs := by
  fun_induction scan previous base cs with
  | case1 previous base cs taken rest hproperty x after ih =>
    have happend : ('.' :: taken) ++ rest = cs := Symbol.property?_append hproperty
    have hsize : base + 1 + size taken = base + size ('.' :: taken) := by
      rw [size_cons, ← Nat.add_assoc]
      rfl
    rw [← happend]
    exact .cons (.start _ _) (hsize ▸ ih)
  | case2 previous base cs _ start hnil =>
    -- nothing but blanks: the text ends behind them
    exact ⟨fun _ h => (nomatch h), cs.takeWhile isBlank, [], (append_of_trimStart hnil).symm, rfl⟩
  | case3 previous base cs _ start c body hcons f hread =>
    exact ⟨fun _ h => (nomatch h), cs.takeWhile isBlank, c :: body,
      (append_of_trimStart hcons).symm, rfl⟩
  | case4 previous base cs _ start c body hcons x spelling rest hread after ih =>
    have happend : cs.takeWhile isBlank ++ (spelling ++ rest) = cs :=
      (congrArg _ (Symbol.read?_append hread)).trans (append_of_trimStart hcons)
    have hx : IsBetween base (cs.takeWhile isBlank ++ spelling ++ rest) start :=
      ⟨cs.takeWhile isBlank, spelling ++ rest, List.append_assoc .., rfl⟩
    have hrest : after.Between (base + size (cs.takeWhile isBlank ++ spelling)) rest := by
      rw [size_append, ← Nat.add_assoc]
      exact ih
    have hall := Between.cons (x := ⟨x, spelling, start⟩) hx hrest
    rwa [List.append_assoc, happend] at hall

end Lexemes

namespace Reading

/-- An error is at a lexeme or where the lexemes stop. -/
theorem offset_of_runAll {s : Reading} {xs : Lexemes} {e : Error} (h : s.runAll xs = .error e) :
    (∃ x ∈ xs.items, e.offset = x.offset) ∨ e.offset = xs.ending.offset := by
  have hrun : ∀ (s : Reading) (items : List Lexeme), s.run items = .error e →
      ∃ x ∈ items, e.offset = x.offset := by
    intro s items
    induction items generalizing s with
    | nil => exact fun h => nomatch h
    | cons x items ih =>
      intro h
      rw [run] at h
      split at h
      · obtain ⟨y, hy, hoffset⟩ := ih _ h
        exact ⟨y, List.mem_cons_of_mem _ hy, hoffset⟩
      · cases h
        exact ⟨x, List.mem_cons_self, rfl⟩
  -- either a symbol is refused, or all are read and the end is
  rcases Except.bind_eq_error_iff.1 h with h | ⟨s', -, h⟩
  · exact .inl (hrun s xs.items h)
  · right
    split at h
    · next hending =>
      obtain ⟨f, -, rfl⟩ := Except.mapError_eq_error_iff.1 h
      rw [hending]
      rfl
    · next hending =>
      cases h
      rw [hending]
      rfl

/-- An error of a reading is within the text. -/
theorem between_of_runAll {s : Reading} {cs : List Char} {e : Error}
    (h : s.runAll (.ofChars cs) = .error e) : IsBetween 0 cs e.offset := by
  have hscan := Lexemes.between_scan none 0 cs
  rcases offset_of_runAll h with ⟨x, hx, heq⟩ | heq
  · exact heq ▸ hscan.items x hx
  · exact heq ▸ hscan.ending

end Reading

/-- An expression that is refused has its error within the text. -/
theorem Postfix.between_of_parse {text : String} {e : Error} (h : Postfix.parse text = .error e) :
    IsBetween 0 text.toList e.offset :=
  Reading.between_of_runAll (Except.map_eq_error_iff.1 (Except.map_eq_error_iff.1 h))

theorem Postfix.between_of_parseList {text : String} {e : Error}
    (h : Postfix.parseList text = .error e) : IsBetween 0 text.toList e.offset := by
  have h' := Except.map_eq_error_iff.1 h
  unfold Phrase.parseList at h'
  split at h'
  · cases h'
  · exact Reading.between_of_runAll (Except.map_eq_error_iff.1 h')

end Expr

end Stencil
