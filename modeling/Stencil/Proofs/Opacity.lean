import Stencil.Proofs.Conservation
import Stencil.Proofs.Placement

/-! # What is written inside comments

Another body of a comment leaves everything outside the comment as it is, unless a directive that
was opened before the comment and never closed finds its closing marker in the new body.
-/

namespace Stencil

theorem Markers.wrap_append (m : Markers) (body behind : List Char) :
    m.wrap body ++ behind = m.opening ++ (body ++ (m.closing ++ behind)) := by
  simp only [wrap, List.append_assoc]

/-- A search ends at the same opening marker whatever is written in and behind the directive. -/
theorem Markers.find?_of_wrap {m : Markers} {cs body : List Char} {hit : Hit}
    (h : m.find? cs = some hit) (hbody : m.Encloses body) (behind : List Char) :
    m.find? (hit.before ++ (m.wrap body ++ behind)) = some ⟨hit.before, body, behind⟩ := by
  obtain ⟨-, -, hfirst⟩ := find?_eq_some_iff.mp h
  exact find?_eq_some_iff.mpr ⟨by rw [wrap_append], hbody,
    Text.first_nil_iff.mp (Text.first_nil_iff.mpr hfirst)⟩

namespace Directive

def withBody (d : Directive) (body : List Char) : Directive :=
  { d with body := body, stop := moveByte (Text.size d.body) (Text.size body) d.stop }

/-- A text in which the body of a directive is replaced. -/
def rewrite (d : Directive) (text body : List Char) : List Char :=
  Text.take d.bodyStart text ++ (body ++ Text.drop (d.bodyStart + Text.size d.body) text)

end Directive

namespace Signs

/-- Before byte `stop` of a text that starts at byte `pos` there is an opening marker of a kind
outside the directives of the text. -/
def Unfinished (signs : Signs) (kind : Kind) (pos : Nat) (cs : List Char) (pieces : List Piece)
    (stop : Nat) : Prop :=
  ∃ before behind, cs = before ++ ((signs.get kind).opening ++ behind) ∧
    pos + Text.size before < stop ∧ ∀ d, .directive d ∈ pieces →
      ¬ (d.start ≤ pos + Text.size before ∧ pos + Text.size before < d.stop)

/-! ## The next directive -/

theorem size_standard_opening_le (kind : Kind) :
    Text.size (standard.get kind).opening ≤ Text.size standard.comment.opening := by
  cases kind <;> decide

theorem not_mem_standard_closing {kind : Kind} (h : kind ≠ .comment) :
    '-' ∉ (standard.get kind).closing := by
  cases kind
  case comment => exact absurd rfl h
  all_goals decide

/-- A closing marker does not begin inside the opening marker of a comment and end behind it. -/
theorem isInfix_or_of_opening {needle before more x body : List Char}
    (hx : before ++ standard.comment.opening = more ++ x) (h : needle <:+: x ++ body)
    (hneedle : '-' ∉ needle) : needle <:+: x ∨ needle <:+: body := by
  rcases List.eq_nil_or_concat x with rfl | ⟨init, last, rfl⟩
  · exact .inr h
  · -- what is left of the opening marker ends with a dash, and the closing marker has none
    rw [List.concat_eq_append] at hx h ⊢
    have hlast : (before ++ ['<', '!', '-']) ++ ['-'] = (more ++ init) ++ [last] := by
      rw [List.append_assoc, List.append_assoc]
      exact hx
    obtain rfl := List.singleton_inj.mp (List.append_inj_right' hlast rfl)
    rw [List.append_assoc] at h
    exact (Text.isInfix_of_append_cons h hneedle).imp_left
      fun hinit => hinit.trans (List.prefix_append init _).isInfix

/-- A closing marker that is found behind `x` in the text of a comment is found there for another
body too, unless it comes from the body. -/
theorem isInfix_of_rewrite {kind : Kind} {before more x body' behind : List Char}
    (body : List Char) (hx : before ++ standard.comment.opening = more ++ x)
    (h : (standard.get kind).closing <:+: x ++ (body' ++ (standard.comment.closing ++ behind)))
    (hbody : kind ≠ .comment → ¬ (standard.get kind).closing <:+: body') :
    (standard.get kind).closing <:+: x ++ (body ++ (standard.comment.closing ++ behind)) := by
  by_cases hkind : kind = .comment
  · subst hkind
    exact ⟨x ++ body, behind, by simp only [List.append_assoc]; rfl⟩
  -- the dash behind the body separates the body from what follows the comment
  have hdash := not_mem_standard_closing hkind
  rw [← List.append_assoc] at h
  rcases Text.isInfix_of_append_cons (x := x ++ body') h hdash with hbefore | hbehind
  · have hin := (isInfix_or_of_opening hx hbefore hdash).resolve_right (hbody hkind)
    exact hin.trans (List.prefix_append x _).isInfix
  · refine hbehind.trans (List.IsSuffix.isInfix ⟨x ++ body ++ ['-'], ?_⟩)
    simp only [List.append_assoc]
    rfl

/-- A directive that starts before a comment starts there, or even earlier, whatever the comment
says, unless it is closed by what the comment says. -/
theorem exists_find?_of_rewrite {kind : Kind} {before body' behind : List Char} {hit : Hit}
    (body : List Char)
    (h : (standard.get kind).find? (before ++ (standard.comment.wrap body' ++ behind)) = some hit)
    (hlt : Text.size hit.before < Text.size before)
    (hbody : kind ≠ .comment → ∀ a, before ++ (standard.comment.wrap body ++ behind) =
      hit.before ++ ((standard.get kind).opening ++ a) → ¬ (standard.get kind).closing <:+: body') :
    ∃ old, (standard.get kind).find? (before ++ (standard.comment.wrap body ++ behind)) =
      some old ∧ Text.size old.before ≤ Text.size hit.before := by
  obtain ⟨heq, ⟨first, more, hmore, -⟩, -⟩ := Markers.find?_eq_some_iff.mp h
  -- the opening marker and the character behind it stand before the body of the comment
  have hsplit : (hit.before ++ (standard.get kind).opening) ++
      (first :: (more ++ ((standard.get kind).closing ++ hit.behind))) =
      (before ++ standard.comment.opening) ++ (body' ++ (standard.comment.closing ++ behind)) := by
    rw [Markers.wrap_append, hmore] at heq
    simp only [List.append_assoc, heq, List.cons_append]
  have hopening := size_standard_opening_le kind
  have hle : Text.size (hit.before ++ (standard.get kind).opening) ≤
      Text.size (before ++ standard.comment.opening) := by
    simp only [Text.size_append]
    omega
  obtain ⟨x, hx, hrest⟩ := Text.exists_append_of_size_le hsplit hle
  cases x with
  | nil =>
      have hsize := congrArg Text.size hx
      simp only [Text.size_append, List.append_nil] at hsize
      omega
  | cons first' x =>
      rw [List.cons_append, List.cons.injEq] at hrest
      obtain ⟨rfl, hrest⟩ := hrest
      have hold : before ++ (standard.comment.wrap body ++ behind) = hit.before ++
          ((standard.get kind).opening ++
            (first :: (x ++ (body ++ (standard.comment.closing ++ behind))))) := by
        rw [Markers.wrap_append, ← List.append_assoc before, hx]
        simp only [List.append_assoc, List.cons_append]
      have hclosing : (standard.get kind).closing <:+:
          x ++ (body' ++ (standard.comment.closing ++ behind)) :=
        ⟨more, hit.behind, by rw [List.append_assoc, hrest]⟩
      have hx' : before ++ standard.comment.opening =
          (hit.before ++ (standard.get kind).opening ++ [first]) ++ x := by
        rw [hx, List.append_assoc _ [first]]
        rfl
      rw [hold]
      refine Markers.exists_find?_of_closing (isInfix_of_rewrite body hx' hclosing fun hkind => ?_)
      exact hbody hkind _ hold

/-- No directive of the rewritten text starts before the one that comes first in the old text. -/
theorem Next.first_of_rewrite {kind : Kind} {before body body' behind : List Char} {hit : Hit}
    (h : standard.Next (before ++ (standard.comment.wrap body ++ behind)) kind hit)
    (hle : Text.size hit.before ≤ Text.size before)
    (hfree : ∀ k ≠ .comment, ∀ b a, before ++ (standard.comment.wrap body ++ behind) =
      b ++ ((standard.get k).opening ++ a) → Text.size b < Text.size hit.before →
      ¬ (standard.get k).closing <:+: body') (k : Kind) (hit' : Hit)
    (hfind : (standard.get k).find? (before ++ (standard.comment.wrap body' ++ behind)) =
      some hit') : Text.size hit.before ≤ Text.size hit'.before := by
  by_contra hnot
  have hlt := Nat.lt_of_not_le hnot
  obtain ⟨old, hold, hle'⟩ := exists_find?_of_rewrite body hfind (Nat.lt_of_lt_of_le hlt hle)
    fun hk a heq => hfree k hk hit'.before a heq hlt
  have hfirst := h.first k old hold
  omega

/-! ## The division -/

theorem Divides.start_le {signs : Signs} {kind : Kind} {pos : Nat} {hit : Hit}
    {pieces : List Piece} (h : signs.Divides (signs.place kind pos hit).stop hit.behind pieces)
    {d : Directive}
    (hd : .directive d ∈
      Piece.ofText hit.before ++ .directive (signs.directive kind pos hit) :: pieces) :
    pos + Text.size hit.before ≤ d.start := by
  rcases Piece.directive_mem_ofText_append_cons hd with rfl | hrest
  · exact Nat.le_refl _
  · obtain ⟨before, -, -, hstart⟩ := (h.standsIn hrest).place
    rw [stop_place] at hstart
    omega

/-- What is unfinished behind the first directive is unfinished in the whole text. -/
theorem Unfinished.of_behind {signs : Signs} {k kind : Kind} {pos stop : Nat} {cs : List Char}
    {hit : Hit} {pieces : List Piece}
    (h : signs.Unfinished k (signs.place kind pos hit).stop hit.behind pieces stop)
    (hcs : cs = hit.before ++ ((signs.get kind).wrap hit.body ++ hit.behind)) :
    signs.Unfinished k pos cs
      (Piece.ofText hit.before ++ .directive (signs.directive kind pos hit) :: pieces) stop := by
  obtain ⟨before, behind, hbehind, hlt, hout⟩ := h
  have hsize : pos + Text.size (hit.before ++ ((signs.get kind).wrap hit.body ++ before)) =
      (signs.place kind pos hit).stop + Text.size before := by
    rw [stop_place]
    simp only [Text.size_append, Nat.add_assoc]
  refine ⟨hit.before ++ ((signs.get kind).wrap hit.body ++ before), behind, ?_, ?_, ?_⟩
  · simp only [hcs, hbehind, List.append_assoc]
  · rwa [hsize]
  · rw [hsize]
    intro d hd
    rcases Piece.directive_mem_ofText_append_cons hd with rfl | hrest
    · exact fun hin => absurd hin.2 (Nat.not_lt.mpr (Nat.le_add_right _ _))
    · exact hout d hrest

theorem Divides.withBody {signs : Signs} {kind : Kind} {pos : Nat} {cs body : List Char}
    {hit : Hit} {pieces : List Piece} (hfound : (signs.get kind).find? cs = some hit)
    (hrest : signs.Divides (signs.place kind pos hit).stop hit.behind pieces)
    (hbody : (signs.get kind).Encloses body)
    (hfirst : ∀ k h, (signs.get k).find?
        (hit.before ++ ((signs.get kind).wrap body ++ hit.behind)) = some h →
      Text.size hit.before ≤ Text.size h.before) :
    signs.Divides pos (hit.before ++ ((signs.get kind).wrap body ++ hit.behind))
      (Piece.ofText hit.before ++ .directive ((signs.directive kind pos hit).withBody body) ::
        pieces.map (Piece.moved (Text.size hit.body) (Text.size body))) := by
  let hit' : Hit := { hit with body := body }
  have hstop : moveByte (Text.size hit.body) (Text.size body) (signs.place kind pos hit).stop =
      (signs.place kind pos hit').stop := by
    simp only [moveByte, place, hit']
    omega
  have hdirective : (signs.directive kind pos hit).withBody body =
      signs.directive kind pos hit' := by
    rw [Directive.withBody, Signs.directive, hstop]
    rfl
  have hle : Text.size hit.body ≤ (signs.place kind pos hit).stop := by
    simp only [place]
    omega
  rw [hdirective]
  exact .directive kind hit' ⟨Markers.find?_of_wrap hfound hbody hit.behind, hfirst⟩
    (hstop ▸ hrest.moved hle)

theorem Divides.withBehind {signs : Signs} {kind : Kind} {pos : Nat} {cs behind : List Char}
    {hit : Hit} {pieces : List Piece} (hfound : (signs.get kind).find? cs = some hit)
    (hrest : signs.Divides (signs.place kind pos hit).stop behind pieces)
    (hfirst : ∀ k h, (signs.get k).find?
        (hit.before ++ ((signs.get kind).wrap hit.body ++ behind)) = some h →
      Text.size hit.before ≤ Text.size h.before) :
    signs.Divides pos (hit.before ++ ((signs.get kind).wrap hit.body ++ behind))
      (Piece.ofText hit.before ++ .directive (signs.directive kind pos hit) :: pieces) :=
  .directive kind { hit with behind := behind }
    ⟨Markers.find?_of_wrap hfound (Markers.find?_eq_some_iff.mp hfound).2.1 behind, hfirst⟩ hrest

theorem Divides.rewrite {pos : Nat} {cs body : List Char} {pieces front back : List Piece}
    {d : Directive} (h : standard.Divides pos cs pieces)
    (hpieces : pieces = front ++ .directive d :: back) (hkind : d.kind = .comment)
    (hbody : standard.comment.Encloses body)
    (hfree : ∀ kind ≠ .comment, standard.Unfinished kind pos cs front d.start →
      ¬ (standard.get kind).closing <:+: body) :
    ∃ before behind, cs = before ++ (standard.comment.wrap d.body ++ behind) ∧
      d.start = pos + Text.size before ∧
      standard.Divides pos (before ++ (standard.comment.wrap body ++ behind))
        (front ++ .directive (d.withBody body) ::
          back.map (Piece.moved (Text.size d.body) (Text.size body))) := by
  induction h generalizing front with
  | rest =>
      have hmem : .directive d ∈ front ++ .directive d :: back :=
        List.mem_append_right _ List.mem_cons_self
      rw [← hpieces] at hmem
      exact absurd hmem (Piece.directive_not_mem_ofText d _)
  | @directive pos cs pieces kind hit hnext hrest ih =>
      have hcs : cs = hit.before ++ ((standard.get kind).wrap hit.body ++ hit.behind) := by
        rw [Markers.wrap_append]
        exact Markers.eq_of_find? hnext.found
      -- what is unfinished before the first directive is unfinished before the comment
      have hfree' : ∀ k ≠ .comment, ∀ b a, cs = b ++ ((standard.get k).opening ++ a) →
          Text.size b < Text.size hit.before → ¬ (standard.get k).closing <:+: body := by
        intro k hk b a heq hlt
        have hd := hrest.start_le (d := d) (by rw [hpieces]; simp)
        refine hfree k hk ⟨b, a, heq, by omega, fun e he => ?_⟩
        have hle := hrest.start_le (d := e) (by rw [hpieces]; exact List.mem_append_left _ he)
        omega
      rcases Piece.ofText_append_cons_eq hpieces with ⟨rfl, rfl, rfl⟩ | ⟨more, rfl, rfl⟩
      · obtain rfl : kind = .comment := hkind
        rw [hcs] at hnext hfree'
        exact ⟨hit.before, hit.behind, hcs, rfl, Divides.withBody hnext.found hrest hbody
          (hnext.first_of_rewrite (Nat.le_refl _) hfree')⟩
      · obtain ⟨before, behind, hbehind, hstart, hdivides⟩ := ih rfl fun k hk hunfinished =>
          hfree k hk (hunfinished.of_behind hcs)
        have hpre : ∀ body', hit.before ++ ((standard.get kind).wrap hit.body ++
              (before ++ (standard.comment.wrap body' ++ behind))) =
            (hit.before ++ ((standard.get kind).wrap hit.body ++ before)) ++
              (standard.comment.wrap body' ++ behind) := by
          intro body'
          simp only [List.append_assoc]
        rw [hbehind, hpre] at hcs
        rw [hcs] at hnext hfree'
        refine ⟨_, behind, hcs, ?_, ?_⟩
        · rw [hstart, stop_place]
          simp only [Text.size_append, Nat.add_assoc]
        · have hle : Text.size hit.before ≤
              Text.size (hit.before ++ ((standard.get kind).wrap hit.body ++ before)) := by
            simp only [Text.size_append]
            omega
          have hall := Divides.withBehind hnext.found hdivides
            (hpre body ▸ hnext.first_of_rewrite hle hfree')
          simpa only [List.append_assoc, List.cons_append] using hall

/-! ## The segments -/

theorem scan_eq_ok_iff {signs : Signs} {dialect : Dialect} {text : List Char}
    {front back : List Piece} {d : Directive} {segments : List Segment}
    (hpieces : signs.pieces text = front ++ .directive d :: back) (hkind : d.kind = .comment) :
    signs.scan dialect text = .ok segments ↔
      ∃ before behind, Piece.readAll dialect text front = .ok before ∧
        Piece.readAll dialect text back = .ok behind ∧
        segments = before ++ .comment d.body :: behind := by
  have hread : (Piece.directive d).read dialect text = .ok (some (.comment d.body)) := by
    simp only [Piece.read, Directive.read, hkind]
  rw [scan, hpieces, Piece.readAll_append_eq_ok_iff]
  simp only [Piece.readAll, hread, bind_eq_ok_iff]
  constructor
  · rintro ⟨before, _, hbefore, ⟨_, hsegment, behind, hbehind, hjoin⟩, rfl⟩
    cases hsegment
    cases hjoin
    exact ⟨before, behind, hbefore, hbehind, rfl⟩
  · rintro ⟨before, behind, hbefore, hbehind, rfl⟩
    exact ⟨before, _, hbefore, ⟨_, rfl, behind, hbehind, rfl⟩, rfl⟩

/-- What is written inside a comment does not change how the text outside it is read, unless it
closes a directive that was left unfinished before the comment: another body of the comment
changes only the segment of the comment and the places of the statements behind it. -/
theorem scan_rewrite {dialect : Dialect} {text body : List Char} {front back : List Piece}
    {d : Directive} (hpieces : standard.pieces text = front ++ .directive d :: back)
    (hkind : d.kind = .comment)
    (hbody : standard.comment.find? (standard.comment.wrap body) = some ⟨[], body, []⟩)
    (hfree : ∀ kind ≠ .comment, standard.Unfinished kind 0 text front d.start →
      ¬ (standard.get kind).closing <:+: body) :
    (∀ segments, standard.scan dialect text = .ok segments ↔
      ∃ before behind, Piece.readAll dialect text front = .ok before ∧
        Piece.readAll dialect text back = .ok behind ∧
        segments = before ++ .comment d.body :: behind) ∧
    (∀ segments, standard.scan dialect (d.rewrite text body) = .ok segments ↔
      ∃ before behind, Piece.readAll dialect text front = .ok before ∧
        Piece.readAll dialect text back = .ok behind ∧
        segments = before ++ .comment body ::
          behind.map (Segment.moved (Text.size d.body) (Text.size body))) := by
  refine ⟨fun segments => scan_eq_ok_iff hpieces hkind, fun segments => ?_⟩
  have hdivides := standard.pieces_divides text
  have hmem : .directive d ∈ standard.pieces text := by
    rw [hpieces]
    exact List.mem_append_right _ List.mem_cons_self
  have hbodyStart := (hdivides.standsIn hmem).bodyStart
  obtain ⟨before, behind, htext, hstart, hdivides'⟩ :=
    hdivides.rewrite hpieces hkind (Markers.find?_eq_some_iff.mp hbody).2.1 hfree
  have hrewrite : d.rewrite text body = before ++ (standard.comment.wrap body ++ behind) := by
    have htext' : text = (before ++ standard.comment.opening) ++
        (d.body ++ (standard.comment.closing ++ behind)) := by
      rw [htext, Markers.wrap_append, List.append_assoc]
    have hsize : d.bodyStart = Text.size (before ++ standard.comment.opening) := by
      rw [hbodyStart, hstart, hkind, Nat.zero_add, Text.size_append]
      rfl
    rw [Directive.rewrite, hsize, htext', Text.take_size_append, ← Text.size_append,
      ← List.append_assoc _ d.body, Text.drop_size_append, Markers.wrap_append,
      List.append_assoc]
  rw [← hrewrite] at hdivides'
  have hpieces' := (standard.pieces_divides (d.rewrite text body)).unique hdivides'
  rw [scan_eq_ok_iff hpieces' hkind]
  constructor
  · rintro ⟨front', back', hfront, hback, rfl⟩
    obtain ⟨old, hold, rfl⟩ := (Piece.readAll_moved_eq_ok_iff text).mp hback
    exact ⟨front', old, (Piece.readAll_eq_ok_iff_of_source text).mp hfront, hold, rfl⟩
  · rintro ⟨front', old, hfront, hold, rfl⟩
    exact ⟨front', _, (Piece.readAll_eq_ok_iff_of_source text).mpr hfront,
      (Piece.readAll_moved_eq_ok_iff text).mpr ⟨old, hold, rfl⟩, rfl⟩

/-- An output directive was left unfinished, and the new body closes only a statement. -/
theorem scan_rewrite_of_unfinished_output :
    let d : Directive := ⟨.comment, 2, 6, ['a'], 10⟩
    standard.scan ⟨.builtin, true⟩
        (d.rewrite "\x7b\x7b<!--a-->\x7b@ else @\x7d".toList "@\x7d é".toList) =
      .ok [.text "\x7b\x7b".toList, .comment "@\x7d é".toList, .statement .otherwise 14] := by
  let d : Directive := ⟨.comment, 2, 6, ['a'], 10⟩
  let text := "\x7b\x7b<!--a-->\x7b@ else @\x7d".toList
  have hpieces : standard.pieces text = [.text "\x7b\x7b".toList] ++ .directive d ::
      [.directive ⟨.statement, 10, 12, " else ".toList, 20⟩] := by rfl
  have hfree : ∀ kind ≠ .comment,
      standard.Unfinished kind 0 text [.text "\x7b\x7b".toList] d.start →
      ¬ (standard.get kind).closing <:+: "@\x7d é".toList := by
    intro kind hkind hunfinished
    cases kind with
    | comment => exact absurd rfl hkind
    | silent => decide
    | output => decide
    | statement | blockEnd =>
        obtain ⟨before, behind, htext, hlt, -⟩ := hunfinished
        rcases before with _ | ⟨b, _ | ⟨b', before⟩⟩
        · exact absurd (List.cons.inj (List.cons.inj htext).2).1 (by decide)
        · exact absurd (List.cons.inj (List.cons.inj (List.cons.inj htext).2).2).1 (by decide)
        · have hb := b.utf8Size_pos
          have hb' := b'.utf8Size_pos
          simp only [Text.size_cons, d] at hlt
          omega
  exact ((scan_rewrite hpieces rfl rfl hfree).2 _).mpr
    ⟨[.text "\x7b\x7b".toList], [.statement .otherwise 10], rfl, rfl, rfl⟩

/-- The end of a block was left unfinished, and the new body closes it. -/
theorem scan_rewrite_ne_of_closing :
    let text := "\x7b/@ <!-- a -->".toList
    let body := " @\x7d".toList
    let d : Directive := ⟨.comment, 4, 8, " a ".toList, 14⟩
    standard.pieces text = [.text "\x7b/@ ".toList, .directive d] ∧
      standard.comment.find? (standard.comment.wrap body) = some ⟨[], body, []⟩ ∧
      standard.scan ⟨.builtin, true⟩ text = .ok [.text "\x7b/@ ".toList, .comment " a ".toList] ∧
      standard.scan ⟨.builtin, true⟩ (d.rewrite text body) =
        .ok [.statement .close 0, .text "-->".toList] ∧
      standard.scan ⟨.builtin, true⟩ (d.rewrite text body) ≠
        .ok [.text "\x7b/@ ".toList, .comment body] := by
  refine ⟨rfl, rfl, rfl, rfl, fun h => ?_⟩
  cases h

end Signs

end Stencil
