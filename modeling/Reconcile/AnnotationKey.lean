/-!
# Annotations and labels

The names under which an object carries what this program records on it.
-/

namespace Reconcile.AnnotationKey

/-- The garbage-collection tag of the run that last applied the object. -/
def gcTag : String := "kcfg.io/garbage-collect-tag"

/-- Whether the object takes part in garbage collection: `auto`, also when absent, or not. -/
def gcStrategy : String := "kcfg.io/garbage-collect-strategy"

/-- The compressed snapshot of the object as it was last submitted. -/
def lastApplied : String := "kcfg.io/last-applied-configuration"

/-- The plain snapshot that another client writes; it is read only. -/
def plainLastApplied : String := "kubectl.kubernetes.io/last-applied-configuration"

end Reconcile.AnnotationKey

namespace Reconcile.Label

/-- The label that repeats the garbage-collection tag, so that a server can select by it. -/
def gcTag : String := "kcfg.io/garbage-collect-tag"

end Reconcile.Label
