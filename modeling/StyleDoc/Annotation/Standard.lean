import StyleDoc.Annotation.Field
import StyleDoc.Annotation.Registry

/-!
# Standard annotations

The annotations that documentation of style sheets is usually written with.
-/

namespace StyleDoc

namespace Annotation

def standard : List Annotation :=
  [(ofReader "access" word).withFallback (.str "public"),
   (ofReader "alias" plain).onlyOn [.function, .mixin],
   ofReader "author" plain,
   (ofReader "content" plain).onlyOn [.mixin],
   ofReader "deprecated" plain,
   ofReader "example" sample,
   (ofReader "group" lowered).withFallback (.str "undefined"),
   ofReader "ignore" nothing,
   (ofReader "link" link).withAliases ["source"],
   (ofReader "output" plain).onlyOn [.mixin],
   ((ofReader "parameter" parameter).withAliases ["param", "arg", "argument"]).onlyOn
     [.function, .mixin],
   ((ofReader "prop" parameter).withAliases ["property"]).onlyOn [.var],
   (ofReader "requires" requirement).withAliases ["require"],
   ((ofReader "returns" returned).withAliases ["return"]).onlyOn [.function],
   ofReader "see" plain,
   ofReader "since" version,
   ((ofReader "throws" plain).withAliases ["throw", "exception"]).onlyOn [.function, .mixin],
   ofReader "todo" plain,
   (ofReader "type" plain).onlyOn [.var]]

end Annotation

/-- The registry of the standard annotations. -/
def Registry.standard : Registry := ofList Annotation.standard

end StyleDoc
