namespace Monotype

/-- How deep things may nest before a run gives up on them: the groups and bodies in the text of an expression, the
arguments and bodies of its tree, the parts of an expression that is written as a text or as an outline, the containers
of a literal, and the collections of a document. -/
structure Limits where
  groups : Nat := 325
  tree : Nat := 490
  text : Nat := 490
  outline : Nat := 980
  literal : Nat := 2975
  document : Nat := 480
  deriving DecidableEq

end Monotype
