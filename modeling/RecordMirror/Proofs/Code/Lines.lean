import RecordMirror.Proofs.Code.WellFormed
import RecordMirror.Proofs.Text.Line
/-!
The texts of well-formed trees are on one line: their names are words, and nothing else that is
written in them breaks a line.
-/

namespace RecordMirror

theorem oneLine_of_isWord {text : String} (h : isWord text.toList = true) : OneLine text := by
  intro hmem
  have hpart := isWordPart_of_mem h hmem
  exact absurd hpart (by decide)

theorem Container.oneLine_name (container : Container) : OneLine container.name := by
  cases container <;> decide

theorem Code.Filling.oneLine_name (filling : Filling) : OneLine filling.name := by
  cases filling <;> decide

namespace Code

theorem TypeHint.WellFormed.oneLine {hint : TypeHint} (h : hint.WellFormed) :
    OneLine hint.render := by
  induction hint with
  | name text => exact oneLine_of_isWord h
  | optional inner ih => exact oneLine_append.2 ⟨ih h, by decide⟩
  | sequence container element ih =>
      have helement := ih h.2
      cases container <;> simp only [render, oneLine_append, helement] <;> decide
  | set container element ih =>
      simp only [render, oneLine_append, container.oneLine_name, ih h.2]
      decide
  | mapping container key value ihKey ihValue =>
      simp only [render, oneLine_append, container.oneLine_name, ihKey h.2.1, ihValue h.2.2]
      decide

theorem Expr.WellFormed.oneLine {e : Expr} (h : e.WellFormed) : OneLine e.render := by
  induction e with
  | name text => exact oneLine_of_isWord h
  | member object field ih =>
      simp only [render, oneLine_append, ih h.1, oneLine_of_isWord h.2.2]
      decide
  | fromPersisted mirror record ih =>
      simp only [render, oneLine_append, oneLine_of_isWord h.1, ih h.2]
      decide
  | buildPersisted mirror ih =>
      simp only [render, oneLine_append, ih h.1]
      decide
  | construct container source ih =>
      simp only [render, oneLine_append, container.oneLine_name, ih h]
      decide
  | constructEach container value item source ihValue ihSource =>
      obtain ⟨-, hvalue, hitem, hsource, -⟩ := h
      simp only [render, oneLine_append, container.oneLine_name, ihValue hvalue,
        oneLine_of_isWord hitem, ihSource hsource]
      decide
  | displayEach display value item source ihValue ihSource =>
      obtain ⟨hvalue, hitem, hsource, -⟩ := h
      cases display <;>
        simp only [render, oneLine_append, ihValue hvalue, oneLine_of_isWord hitem,
          ihSource hsource] <;>
        decide
  | pairs key item value source ihValue ihSource =>
      obtain ⟨hkey, hitem, -, hvalue, hsource, -⟩ := h
      simp only [render, oneLine_append, oneLine_of_isWord hkey, oneLine_of_isWord hitem,
        ihValue hvalue, ihSource hsource]
      decide
  | ifPresent value subject ihValue ihSubject =>
      obtain ⟨hvalue, -, hsubject, -⟩ := h
      simp only [render, oneLine_append, ihValue hvalue, ihSubject hsubject]
      decide

theorem Expr.IsTarget.oneLine {target : Expr}
    (h : target.IsTarget fun name => isWord name.toList = true) : OneLine target.render := by
  obtain ⟨-, -, -, htarget⟩ := h
  exact Expr.WellFormed.oneLine htarget

theorem Statement.WellFormed.oneLine {store : Statement} (h : store.WellFormed) :
    OneLine store.render := by
  cases store with
  | assign target value =>
      have hvalue : value.WellFormed := h.2
      simp only [render, oneLine_append, h.1.oneLine, hvalue.oneLine]
      decide
  | fill target filling source =>
      have hsource : source.WellFormed := h.2
      simp only [render, oneLine_append, h.1.oneLine, filling.oneLine_name, hsource.oneLine]
      decide
  | fillEach target filling value item source =>
      have hvalue : value.WellFormed := h.2.1
      have hsource : source.WellFormed := h.2.2.2.1
      simp only [render, oneLine_append, h.1.oneLine, filling.oneLine_name, hvalue.oneLine,
        oneLine_of_isWord h.2.2.1, hsource.oneLine]
      decide

end Code

end RecordMirror
