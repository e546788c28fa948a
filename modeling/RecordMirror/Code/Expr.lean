import RecordMirror.Mode
/-!
The fragment of the generated language that mirrors are written in: annotations, conversion
expressions and the statements that store a converted value.  The trees are what the conversions
compute; their text is the last step.
-/

namespace RecordMirror.Code

/-- The type annotation of a mirror field. -/
inductive TypeHint
  | name (text : String)
  | optional (inner : TypeHint)
  | sequence (container : Container) (element : TypeHint)
  | set (container : Container) (element : TypeHint)
  | mapping (container : Container) (key value : TypeHint)
deriving DecidableEq, Repr

/-- The text of an annotation.  A tuple of any length is written with an ellipsis. -/
def TypeHint.render : TypeHint → String
  | name text => text
  | optional inner => inner.render ++ " | None"
  | sequence .tuple element => "tuple[" ++ element.render ++ ", ...]"
  | sequence container element => container.name ++ "[" ++ element.render ++ "]"
  | set container element => container.name ++ "[" ++ element.render ++ "]"
  | mapping container key value =>
    container.name ++ "[" ++ key.render ++ ", " ++ value.render ++ "]"

/-- The two displays a comprehension can build. -/
inductive Display
  | list
  | set
deriving DecidableEq, Repr

/-- A conversion expression. -/
inductive Expr
  /-- A variable. -/
  | name (text : String)
  /-- An attribute of an object. -/
  | member (object : Expr) (field : String)
  /-- The mirror of a record. -/
  | fromPersisted (mirror : String) (record : Expr)
  /-- The record of a mirror. -/
  | buildPersisted (mirror : Expr)
  /-- A container made from the items of another one. -/
  | construct (container : Container) (source : Expr)
  /-- A container made from a value for each item of another one. -/
  | constructEach (container : Container) (value : Expr) (item : String) (source : Expr)
  /-- A list or set display with a value for each item of a container. -/
  | displayEach (display : Display) (value : Expr) (item : String) (source : Expr)
  /-- A dictionary display with a converted value for each pair of a mapping. -/
  | pairs (key item : String) (value : Expr) (source : Expr)
  /-- A value computed only if a subject is present, and absent otherwise. -/
  | ifPresent (value subject : Expr)
deriving DecidableEq, Repr

/-- The text of an expression. -/
def Expr.render : Expr → String
  | name text => text
  | member object field => object.render ++ "." ++ field
  | fromPersisted mirror record => mirror ++ ".from_persisted(" ++ record.render ++ ")"
  | buildPersisted mirror => mirror.render ++ ".build_persisted_object()"
  | construct container source => container.name ++ "(" ++ source.render ++ ")"
  | constructEach container value item source =>
    container.name ++ "(" ++ value.render ++ " for " ++ item ++ " in " ++ source.render ++ ")"
  | displayEach .list value item source =>
    "[" ++ value.render ++ " for " ++ item ++ " in " ++ source.render ++ "]"
  | displayEach .set value item source =>
    "\x7b" ++ value.render ++ " for " ++ item ++ " in " ++ source.render ++ "\x7d"
  | pairs key item value source =>
    "\x7b" ++ key ++ ": " ++ value.render ++ " for " ++ key ++ ", " ++ item ++ " in " ++
      source.render ++ ".items()\x7d"
  | ifPresent value subject =>
    value.render ++ " if " ++ subject.render ++ " is not None else None"

/-- How a container is filled in place. -/
inductive Filling
  | extend
  | update
deriving DecidableEq, Repr

/-- The method that fills a container. -/
def Filling.name : Filling → String
  | extend => "extend"
  | update => "update"

/-- A statement that stores a converted value. -/
inductive Statement
  /-- Assigns a value to an attribute. -/
  | assign (target value : Expr)
  /-- Fills a container with the items of another one. -/
  | fill (target : Expr) (filling : Filling) (source : Expr)
  /-- Fills a container with a value for each item of another one. -/
  | fillEach (target : Expr) (filling : Filling) (value : Expr) (item : String) (source : Expr)
deriving DecidableEq, Repr

/-- The text of a statement. -/
def Statement.render : Statement → String
  | assign target value => target.render ++ " = " ++ value.render
  | fill target filling source =>
    target.render ++ "." ++ filling.name ++ "(" ++ source.render ++ ")"
  | fillEach target filling value item source =>
    target.render ++ "." ++ filling.name ++ "(" ++ value.render ++ " for " ++ item ++ " in " ++
      source.render ++ ")"

end RecordMirror.Code
