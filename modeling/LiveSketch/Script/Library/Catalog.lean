import LiveSketch.Color.Names
import LiveSketch.Script.Library.Core
import LiveSketch.Script.Value.Exact

/-!
# What can be imported

The members of the modules that scripts may import: functions, types and constants, by name.
-/

namespace LiveSketch.Script

namespace Library

/-- A member of a module: a value at once, an object of a type that stands for the name, or a
dictionary of texts. -/
inductive Member where
  | value (v : Value)
  | named (type : String)
  | texts (entries : List (String × String))

def functionsOf (module : String) (names : List String) : List (String × Member) :=
  names.map fun n => (n, .value (.native (module ++ "." ++ n)))

def typesOf (module : String) (names : List String) : List (String × Member) :=
  names.map fun n => (n, .value (.type (module ++ "." ++ n)))

/-- Names that stand for themselves. -/
def markersOf (type : String) (names : List String) : List (String × Member) :=
  names.map fun n => (n, .named type)

def constants (entries : List (String × Value)) : List (String × Member) :=
  entries.map fun (n, v) => (n, .value v)

/-! ## Numbers -/

/-- The numbers that mathematics has names for. -/
def famousNumbers : List (String × Value) :=
  [("pi", .float 3.141592653589793), ("e", .float 2.718281828459045),
    ("tau", .float 6.283185307179586), ("inf", .float (1.0 / 0.0)), ("nan", .float (0.0 / 0.0))]

def mathMembers : List (String × Member) :=
  constants famousNumbers ++
  functionsOf "math" ["acos", "acosh", "asin", "asinh", "atan", "atan2", "atanh", "cbrt", "ceil",
    "comb", "copysign", "cos", "cosh", "degrees", "dist", "erf", "erfc", "exp", "exp2", "expm1",
    "fabs", "factorial", "floor", "fmod", "frexp", "fsum", "gamma", "gcd", "hypot", "isclose",
    "isfinite", "isinf", "isnan", "isqrt", "lcm", "ldexp", "lgamma", "log", "log10", "log1p", "log2",
    "modf", "nextafter", "perm", "pow", "prod", "radians", "remainder", "sin", "sinh", "sqrt", "tan",
    "tanh", "trunc", "ulp"]

def complexMembers : List (String × Member) :=
  constants (famousNumbers ++
    [("infj", .complex 0.0 (1.0 / 0.0)), ("nanj", .complex 0.0 (0.0 / 0.0))]) ++
  functionsOf "cmath" ["acos", "acosh", "asin", "asinh", "atan", "atanh", "cos", "cosh", "exp",
    "isclose", "isfinite", "isinf", "isnan", "log", "log10", "phase", "polar", "rect", "sin", "sinh",
    "sqrt", "tan", "tanh"]

def randomMembers : List (String × Member) :=
  typesOf "random" ["Random", "SystemRandom"] ++
  constants [("BPF", .int 53), ("LOG4", .float 1.3862943611198906),
    ("NV_MAGICCONST", .float 1.7155277699214135), ("RECIP_BPF", .float 1.1102230246251565e-16),
    ("SG_MAGICCONST", .float 2.504077396776274), ("TWOPI", .float 6.283185307179586)] ++
  functionsOf "random" ["betavariate", "choice", "choices", "expovariate", "gammavariate", "gauss",
    "getrandbits", "getstate", "lognormvariate", "normalvariate", "paretovariate", "randbytes",
    "randint", "random", "randrange", "sample", "seed", "setstate", "shuffle", "triangular",
    "uniform", "vonmisesvariate", "weibullvariate"]

def colorMembers : List (String × Member) :=
  constants [("ONE_THIRD", .float (1.0 / 3.0)), ("ONE_SIXTH", .float (1.0 / 6.0)),
    ("TWO_THIRD", .float (2.0 / 3.0))] ++
  functionsOf "colorsys" ["hls_to_rgb", "hsv_to_rgb", "rgb_to_hls", "rgb_to_hsv", "rgb_to_yiq",
    "yiq_to_rgb"]

def statisticsMembers : List (String × Member) :=
  typesOf "statistics" ["LinearRegression", "NormalDist", "StatisticsError"] ++
  functionsOf "statistics" ["correlation", "covariance", "fmean", "geometric_mean", "harmonic_mean",
    "linear_regression", "mean", "median", "median_grouped", "median_high", "median_low", "mode",
    "multimode", "pstdev", "pvariance", "quantiles", "stdev", "variance"] ++
  functionsOf "math" ["erf", "exp", "fabs", "fsum", "hypot", "log", "sqrt"] ++
  functionsOf "functools" ["reduce"] ++ typesOf "itertools" ["groupby", "repeat"] ++
  typesOf "operator" ["itemgetter"]

/-! ## Functions and iterators -/

def iteratorMembers : List (String × Member) :=
  typesOf "itertools" ["accumulate", "chain", "combinations", "combinations_with_replacement",
    "compress", "count", "cycle", "dropwhile", "filterfalse", "groupby", "islice", "pairwise",
    "permutations", "product", "repeat", "starmap", "takewhile", "zip_longest"] ++
  functionsOf "itertools" ["tee"]

def functionMembers : List (String × Member) :=
  typesOf "functools" ["cached_property", "partial", "partialmethod", "singledispatchmethod"] ++
  functionsOf "functools" ["cache", "cmp_to_key", "get_cache_token", "lru_cache",
    "reduce", "recursive_repr", "singledispatch", "total_ordering", "update_wrapper", "wraps"] ++
  constants [("WRAPPER_ASSIGNMENTS", .tuple (["__module__", "__name__", "__qualname__", "__doc__",
      "__annotations__"].map Value.text)), ("WRAPPER_UPDATES", .tuple [.text "__dict__"])]

/-- Operators as functions; each is there under a second name with underscores. -/
def operatorMembers : List (String × Member) :=
  let names := ["abs", "add", "and_", "concat", "contains", "delitem", "eq", "floordiv", "ge",
    "getitem", "gt", "iadd", "iand", "iconcat", "ifloordiv", "ilshift", "imatmul", "imod", "imul",
    "index", "inv", "invert", "ior", "ipow", "irshift", "isub", "itruediv", "ixor", "le", "lshift",
    "lt", "matmul", "mod", "mul", "ne", "neg", "not_", "or_", "pos", "pow", "rshift", "setitem",
    "sub", "truediv", "xor"]
  let second (n : String) : String := "__" ++ (if n.endsWith "_" then (n.dropEnd 1).toString else n) ++ "__"
  functionsOf "operator" (names ++ ["call", "countOf", "indexOf", "is_", "is_not", "length_hint",
    "truth"]) ++
  names.map (fun n => (second n, .value (.native ("operator." ++ n)))) ++
  typesOf "operator" ["attrgetter", "itemgetter", "methodcaller"]

/-! ## Classes -/

/-- Classes made of their fields. -/
def dataclassMembers : List (String × Member) :=
  typesOf "dataclasses" ["Field", "FrozenInstanceError", "InitVar", "KW_ONLY"] ++
  functionsOf "dataclasses" ["asdict", "astuple", "dataclass", "field", "fields", "is_dataclass",
    "make_dataclass", "replace"] ++
  markersOf "dataclasses._MISSING_TYPE" ["MISSING"]

def enumMembers : List (String × Member) :=
  typesOf "enum" ["Enum", "EnumType", "Flag", "IntEnum", "IntFlag", "ReprEnum", "StrEnum", "auto",
    "member", "nonmember", "property"] ++
  [("EnumMeta", .value (.type "enum.EnumType"))] ++
  functionsOf "enum" ["global_enum", "show_flag_values", "unique", "verify"] ++
  markersOf "enum.EnumCheck" ["CONTINUOUS", "NAMED_FLAGS", "UNIQUE"] ++
  markersOf "enum.FlagBoundary" ["CONFORM", "EJECT", "KEEP", "STRICT"]

def typingMembers : List (String × Member) :=
  markersOf "typing._SpecialForm" ["Annotated", "Any", "AnyStr", "ByteString", "Callable", "ClassVar",
    "Collection", "Concatenate", "Container", "Counter", "DefaultDict", "Deque", "Dict", "Final",
    "ForwardRef", "FrozenSet", "Generator", "Hashable", "ItemsView", "Iterable", "Iterator",
    "KeysView", "List", "Literal", "LiteralString", "Mapping", "MappingView", "Match",
    "MutableMapping", "MutableSequence", "MutableSet", "Never", "NoReturn", "NotRequired", "Optional",
    "OrderedDict", "Pattern", "Required", "Reversible", "Self", "Sequence", "Set", "Sized",
    "SupportsAbs", "SupportsBytes", "SupportsComplex", "SupportsFloat", "SupportsIndex",
    "SupportsInt", "SupportsRound", "Tuple", "Type", "TypeAlias", "TypeGuard", "Union", "Unpack",
    "ValuesView", "AbstractSet", "AsyncGenerator", "AsyncIterable", "AsyncIterator", "Awaitable",
    "AsyncContextManager", "ContextManager", "Coroutine", "BinaryIO", "IO", "TextIO", "ChainMap"] ++
  typesOf "typing" ["Generic", "NamedTuple", "NewType", "ParamSpec", "ParamSpecArgs",
    "ParamSpecKwargs", "Protocol", "TypeVar", "TypeVarTuple", "TypedDict"] ++
  functionsOf "typing" ["assert_never", "assert_type", "cast", "clear_overloads",
    "dataclass_transform", "final", "get_args", "get_origin", "get_overloads", "get_type_hints",
    "is_typeddict", "no_type_check", "no_type_check_decorator", "overload", "reveal_type",
    "runtime_checkable"] ++
  constants [("TYPE_CHECKING", .bool false), ("Text", .type "str")]

/-! ## Pictures -/

/-- The modules about pictures, below the one that holds them. -/
def pictureModules : List String :=
  ["BmpImagePlugin", "ExifTags", "GifImagePlugin", "GimpGradientFile", "GimpPaletteFile", "Image",
    "ImageChops", "ImageColor", "ImageDraw", "ImageFile", "ImageFilter", "ImageFont", "ImageMode",
    "ImageOps", "ImagePalette", "ImagePath", "ImageSequence", "ImageText", "JpegImagePlugin",
    "JpegPresets", "PaletteFile", "PngImagePlugin", "PpmImagePlugin", "TiffTags", "_binary",
    "_deprecate", "_imaging", "_imagingft", "_util", "_version"]

def imageMembers : List (String × Member) :=
  typesOf "PIL.Image" ["DecompressionBombError", "DecompressionBombWarning", "Dither", "Exif", "Image",
    "Palette", "Quantize", "Resampling", "Transform", "Transpose"] ++
  functionsOf "PIL.Image" ["alpha_composite", "blend", "composite", "effect_mandelbrot",
    "effect_noise", "eval", "fromarray", "frombuffer", "frombytes", "getmodebands", "getmodebase",
    "getmodetype", "init", "linear_gradient", "merge", "new", "open", "preinit", "radial_gradient"] ++
  constants [("NEAREST", .int 0), ("LANCZOS", .int 1), ("BILINEAR", .int 2), ("BICUBIC", .int 3),
    ("BOX", .int 4), ("HAMMING", .int 5)]

def drawMembers : List (String × Member) :=
  typesOf "PIL.ImageDraw" ["ImageDraw", "Outline"] ++ functionsOf "PIL.ImageDraw" ["Draw", "floodfill",
    "getdraw"]

def colorNameMembers : List (String × Member) :=
  functionsOf "PIL.ImageColor" ["getcolor", "getrgb"] ++
  [("colormap", .texts (colorNames.map fun (name, n) => (name, "#" ++ hexText 6 n)))]

def filterMembers : List (String × Member) :=
  typesOf "PIL.ImageFilter" ["BLUR", "BoxBlur", "BuiltinFilter", "CONTOUR", "Color3DLUT", "DETAIL",
    "EDGE_ENHANCE", "EDGE_ENHANCE_MORE", "EMBOSS", "FIND_EDGES", "Filter", "GaussianBlur", "Kernel",
    "MaxFilter", "MedianFilter", "MinFilter", "ModeFilter", "MultibandFilter", "RankFilter",
    "SHARPEN", "SMOOTH", "SMOOTH_MORE", "UnsharpMask"]

def fontMembers : List (String × Member) :=
  typesOf "PIL.ImageFont" ["FreeTypeFont", "ImageFont", "Layout", "TransposedFont"] ++
  functionsOf "PIL.ImageFont" ["load", "load_default", "load_path", "truetype"]

def pictureOperations : List (String × Member) :=
  functionsOf "PIL.ImageOps" ["autocontrast", "colorize", "contain", "cover", "crop", "deform",
    "equalize", "exif_transpose", "expand", "fit", "flip", "grayscale", "invert", "mirror", "pad",
    "posterize", "scale", "solarize"]

def channelOperations : List (String × Member) :=
  functionsOf "PIL.ImageChops" ["add", "add_modulo", "blend", "composite", "constant", "darker",
    "difference", "duplicate", "hard_light", "invert", "lighter", "logical_and", "logical_or",
    "logical_xor", "multiply", "offset", "overlay", "screen", "soft_light", "subtract",
    "subtract_modulo"]

/-- The functions that the language itself has. -/
def commonFunctions : List String :=
  ["abs", "aiter", "all", "anext", "any", "ascii", "bin", "breakpoint", "callable", "chr", "compile",
    "copyright", "credits", "delattr", "dir", "divmod", "eval", "exec", "exit", "format", "getattr",
    "globals", "hasattr", "hash", "help", "hex", "id", "input", "isinstance", "issubclass", "iter",
    "len", "license", "locals", "max", "min", "next", "oct", "open", "ord", "pow", "print", "quit",
    "repr", "round", "setattr", "sorted", "sum", "vars", "__build_class__", "__import__"]

def commonMembers : List (String × Member) :=
  constants (commonFunctions.map (fun n => (n, .native n)) ++
    namedTypes.map (fun n => (n, .type n)) ++ faultTypes.map (fun e => (e.1, .type e.1)) ++
    typeAliases.map (fun (n, type) => (n, .type type)) ++
    [("Ellipsis", .ellipsis), ("NotImplemented", .notImplemented), ("None", .none),
      ("True", .bool true), ("False", .bool false), ("__debug__", .bool true)])

def catalog : List (String × List (String × Member)) :=
  [("builtins", commonMembers), ("math", mathMembers), ("cmath", complexMembers),
    ("random", randomMembers), ("colorsys", colorMembers), ("itertools", iteratorMembers),
    ("functools", functionMembers), ("operator", operatorMembers),
    ("statistics", statisticsMembers), ("dataclasses", dataclassMembers), ("enum", enumMembers),
    ("typing", typingMembers), ("PIL", constants [("__version__", .text "11.3.0")]),
    ("PIL.Image", imageMembers), ("PIL.ImageDraw", drawMembers),
    ("PIL.ImageColor", colorNameMembers), ("PIL.ImageFont", fontMembers),
    ("PIL.ImageFilter", filterMembers), ("PIL.ImageOps", pictureOperations),
    ("PIL.ImageChops", channelOperations),
    ("PIL.ImagePath", typesOf "PIL.ImagePath" ["Path"])]

def memberNamesOf (module : String) : List String :=
  let own := ((catalog.lookup module).getD []).map Prod.fst
  if module == "PIL" then own ++ pictureModules else own

end Library

end LiveSketch.Script
