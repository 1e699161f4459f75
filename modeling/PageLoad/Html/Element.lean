/-!
The elements of a document. How they lie in each other is left out, as are text and comments:
nothing that is asked of a document depends on them.
-/

namespace PageLoad.Html

inductive Namespace where
  | html
  | svg
  | mathml
  deriving DecidableEq, Repr

structure Attribute where
  name : String
  value : String
  deriving DecidableEq, Repr

structure Element where
  space : Namespace
  name : String
  attributes : List Attribute
  deriving DecidableEq, Repr

end PageLoad.Html
