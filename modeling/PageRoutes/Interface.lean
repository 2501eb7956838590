import PageRoutes.Banner
import PageRoutes.Text.Quoted

/-! The names that the package offers, and what each of them stands for. -/

set_option autoImplicit false

namespace PageRoutes.Interface

def packageName : String := "burrow"

def description : String :=
  "\n".intercalate [
    "Burrow — file-system routes for React Router.",
    "",
    "Scans a directory of page files and compiles it into a routes module:",
    "nested \x60\x60<Route>\x60\x60 declarations mirroring the directory tree, with layouts,",
    "dynamic segments and catch-alls.",
    "",
    "Quick start::",
    "",
    "    import burrow",
    "",
    "    burrow.generate(\"my-app/\")        # Write src/router.tsx once",
    "    burrow.watch(\"my-app/\")           # Regenerate as pages come and go",
    "",
    "File conventions::",
    "",
    "    src/pages/index.tsx               -> index route",
    "    src/pages/about.tsx               -> about",
    "    src/pages/posts/[id].tsx          -> posts/:id",
    "    src/pages/docs/[...slug].tsx      -> docs/*",
    "    src/pages/dashboard/layout.tsx    -> wraps everything under dashboard/",
    "",
    ""]

def inPackage (parts : List String) : String := ".".intercalate (packageName :: parts)

def texts : List (String × String) :=
  [("__name__", packageName), ("__package__", packageName), ("__version__", version),
    ("__doc__", description)]

def definitions : List (String × String) :=
  [("BurrowConfig", inPackage ["config", "BurrowConfig"]),
    ("generate", inPackage ["app", "generate"]),
    ("watch", inPackage ["app", "watch"]),
    ("generate_routes", inPackage ["generator", "generate_routes"]),
    ("render_routes", inPackage ["generator", "render_routes"]),
    ("__getattr__", inPackage ["__getattr__"])]

/-- Names of values that have no full name, with the kinds of the values. -/
def nameless : List (String × String) := [("__all__", "list"), ("_Py_mod_gil", "int")]

def parts : List String :=
  ["_cli", "_errors", "_types", "app", "banner", "config", "config_loader", "generator",
    "observability", "pages", "routes"]

def lackingMessage (owner name : String) : String :=
  owner ++ " has no attribute " ++ Text.quoted name

def modulePart : String := "__module__"

/-- The text that a name leads to: a text, or the full name of a definition. -/
def value (name : String) : Except String String :=
  match (texts ++ definitions).lookup name, nameless.lookup name with
  | some value, _ => .ok value
  | none, some kind => .error (lackingMessage (Text.quoted kind ++ " object") modulePart)
  | none, none =>
    .error (if parts.contains name then
      lackingMessage ("module " ++ Text.quoted (inPackage [name])) modulePart
    else lackingMessage ("module " ++ Text.quoted packageName) name)

end PageRoutes.Interface
