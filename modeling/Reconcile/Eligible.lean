import Reconcile.AnnotationKey
import Reconcile.Resource

/-!
# Eligibility for garbage collection

Which live objects a run with a tag may collect: those that carry its tag, are not controlled by
another object and have not opted out.
-/

namespace Reconcile.Resource

/-- The strategy of objects that take part in garbage collection. -/
def autoStrategy : String := "auto"

/-- The tag of the run that last applied an object: the annotation, or the label without one. -/
def gcTag? (r : Resource) : Option String := (r.annotation? AnnotationKey.gcTag).or (r.label? Label.gcTag)

/-- Whether a run with this tag may collect the object. -/
def isEligible (tag : String) (r : Resource) : Bool :=
  !r.hasController && r.gcTag? == some tag
    && (r.annotation? AnnotationKey.gcStrategy).getD autoStrategy == autoStrategy

end Reconcile.Resource
