import Highlighter.Language.Source

/-! The languages that are known without a source file. -/
namespace Highlighter.Bundled

def slashStar : Option (List String) := some ["/*", "*/"]

def group (name : String) (lines : List String) : GroupRecord :=
  ⟨name, .text (" ".intercalate lines)⟩

def c : LanguageRecord where
  name := some "C"
  extensions := ".c .h"
  lineComment := some "//"
  blockComment := slashStar
  numberContinue := some "xXabcdefABCDEFuUlL"
  groups := [
    group "keywords" [
      "auto break case const continue default do else enum extern for goto if inline",
      "register restrict return sizeof static struct switch typedef union volatile while"],
    group "types" [
      "char double float int long short signed unsigned void _Bool size_t"],
    group "preprocessor" [
      "#define #elif #else #endif #error #if #ifdef #ifndef #include #pragma #undef"]]

def cPlusPlus : LanguageRecord where
  name := some "C++"
  extensions := ".cpp .cc .cxx .hpp .hh .hxx"
  lineComment := some "//"
  blockComment := slashStar
  numberContinue := some "xXabcdefABCDEFuUlL\x27"
  groups := [
    group "keywords" [
      "alignas alignof break case catch class const constexpr const_cast continue decltype",
      "default delete do dynamic_cast else enum explicit export extern false for friend goto",
      "if inline mutable namespace new noexcept nullptr operator private protected public",
      "reinterpret_cast return sizeof static static_assert static_cast struct switch",
      "template this throw true try typedef typeid typename union using virtual volatile",
      "while"],
    group "types" [
      "auto bool char char16_t char32_t double float int long short signed unsigned void",
      "wchar_t"],
    group "preprocessor" [
      "#define #elif #else #endif #error #if #ifdef #ifndef #include #pragma #undef"]]

def cSharp : LanguageRecord where
  name := some "C#"
  extensions := ".cs"
  lineComment := some "//"
  blockComment := slashStar
  numberContinue := some "xXabcdefABCDEFmMuUlL_"
  groups := [
    group "keywords" [
      "abstract as base break case catch checked class const continue default delegate do",
      "else enum event explicit extern false finally fixed for foreach goto if implicit in",
      "interface internal is lock namespace new null operator out override params private",
      "protected public readonly ref return sealed sizeof stackalloc static struct switch",
      "this throw true try typeof unchecked unsafe using virtual void volatile while"],
    group "types" [
      "bool byte char decimal double float int long object sbyte short string uint ulong",
      "ushort var"]]

def java : LanguageRecord where
  name := some "Java"
  extensions := ".java"
  lineComment := some "//"
  blockComment := slashStar
  numberContinue := some "xXabcdefABCDEFlL_"
  groups := [
    group "keywords" [
      "abstract assert break case catch class const continue default do else enum extends",
      "final finally for goto if implements import instanceof interface native new package",
      "private protected public return static strictfp super switch synchronized this throw",
      "throws transient try volatile while"],
    group "types" [
      "boolean byte char double float int long short void"],
    group "literals" [
      "true false null"]]

def javaScript : LanguageRecord where
  name := some "JavaScript"
  extensions := ".js .mjs .cjs .jsx"
  lineComment := some "//"
  blockComment := slashStar
  numberContinue := some "xXabcdefABCDEFn_"
  delimiters := some [
    { name := some "string", opening := "\x22", escape := some "\\" },
    { name := some "char", opening := "\x27", escape := some "\\" },
    { name := some "template", opening := "\x60", escape := some "\\" }]
  groups := [
    group "keywords" [
      "async await break case catch class const continue debugger default delete do else",
      "export extends finally for function if import in instanceof let new of return static",
      "super switch this throw try typeof var void while with yield"],
    group "literals" [
      "true false null undefined NaN Infinity"]]

def typeScript : LanguageRecord where
  name := some "TypeScript"
  extensions := ".ts .tsx .mts"
  lineComment := some "//"
  blockComment := slashStar
  numberContinue := some "xXabcdefABCDEFn_"
  delimiters := some [
    { name := some "string", opening := "\x22", escape := some "\\" },
    { name := some "char", opening := "\x27", escape := some "\\" },
    { name := some "template", opening := "\x60", escape := some "\\" }]
  groups := [
    group "keywords" [
      "abstract as async await break case catch class const continue declare default delete",
      "do else enum export extends finally for from function if implements import in",
      "instanceof interface is keyof let module namespace new of private protected public",
      "readonly return static super switch this throw try type typeof var void while yield"],
    group "types" [
      "any bigint boolean never number object string symbol unknown"],
    group "literals" [
      "true false null undefined"]]

def rust : LanguageRecord where
  name := some "Rust"
  extensions := ".rs"
  lineComment := some "//"
  blockComment := slashStar
  numberContinue := some "xXobabcdefABCDEF_uisz"
  delimiters := some [
    { name := some "string", opening := "\x22", escape := some "\\" }]
  groups := [
    group "keywords" [
      "as async await break const continue crate dyn else enum extern fn for if impl in let",
      "loop match mod move mut pub ref return self Self static struct super trait type",
      "unsafe use where while"],
    group "types" [
      "bool char f32 f64 i8 i16 i32 i64 i128 isize str u8 u16 u32 u64 u128 usize String Vec",
      "Option Result Box"],
    group "literals" [
      "true false Some None Ok Err"]]

def python : LanguageRecord where
  name := some "Python"
  extensions := ".py .pyw .pyi"
  lineComment := some "#"
  numberContinue := some "xXoObBabcdefABCDEFjJ_"
  groups := [
    group "keywords" [
      "and as assert async await break class continue def del elif else except finally for",
      "from global if import in is lambda nonlocal not or pass raise return try while with",
      "yield"],
    group "builtins" [
      "True False None self print len range str int float list dict set tuple"]]

def go : LanguageRecord where
  name := some "Go"
  extensions := ".go"
  lineComment := some "//"
  blockComment := slashStar
  numberContinue := some "xXoObBabcdefABCDEF_i"
  delimiters := some [
    { name := some "string", opening := "\x22", escape := some "\\" },
    { name := some "rune", opening := "\x27", escape := some "\\" },
    { name := some "raw", opening := "\x60" }]
  groups := [
    group "keywords" [
      "break case chan const continue default defer else fallthrough for func go goto if",
      "import interface map package range return select struct switch type var"],
    group "types" [
      "bool byte complex64 complex128 error float32 float64 int int8 int16 int32 int64 rune",
      "string uint uint8 uint16 uint32 uint64 uintptr"],
    group "literals" [
      "true false nil iota"]]

def shell : LanguageRecord where
  name := some "Shell"
  extensions := ".sh .bash .zsh"
  lineComment := some "#"
  delimiters := some [
    { name := some "string", opening := "\x22", escape := some "\\" },
    { name := some "literal", opening := "\x27" }]
  groups := [
    group "keywords" [
      "if then else elif fi case esac for while until do done in function select time return"],
    group "builtins" [
      "echo printf read cd pwd export local set unset shift source exit test"]]

def sql : LanguageRecord where
  name := some "SQL"
  extensions := ".sql"
  lineComment := some "--"
  blockComment := slashStar
  delimiters := some [
    { name := some "string", opening := "\x27", escape := some "\x27" },
    { name := some "identifier", opening := "\x22", escape := some "\x22" }]
  groups := [
    group "keywords" [
      "SELECT FROM WHERE INSERT INTO VALUES UPDATE SET DELETE CREATE TABLE DROP ALTER INDEX",
      "VIEW JOIN INNER LEFT RIGHT OUTER ON AS AND OR NOT NULL IS IN GROUP BY ORDER HAVING",
      "LIMIT DISTINCT UNION PRIMARY KEY FOREIGN REFERENCES select from where insert into",
      "values update set delete create table drop alter index view join inner left right",
      "outer on as and or not null is in group by order having limit distinct union primary",
      "key foreign references"],
    group "types" [
      "INT INTEGER BIGINT VARCHAR CHAR TEXT DATE TIMESTAMP BOOLEAN DECIMAL int integer",
      "bigint varchar char text date timestamp boolean decimal"]]

def pascal : LanguageRecord where
  name := some "Pascal"
  extensions := ".pas .pp .dpr"
  lineComment := some "//"
  blockComment := some ["\x7b", "\x7d"]
  numberContinue := some "$abcdefABCDEF"
  delimiters := some [
    { name := some "string", opening := "\x27", escape := some "\x27" }]
  groups := [
    group "keywords" [
      "and array begin case const div do downto else end file for function goto if in label",
      "mod nil not of or packed procedure program record repeat set then to type until var",
      "while with unit uses interface implementation"],
    group "types" [
      "Integer Real Boolean Char String Byte Word Cardinal Int64 Double"]]

/-- All bundled languages; where two have an extension the first one gets it. -/
def source : LanguageSource :=
  ⟨[c, cPlusPlus, cSharp, java, javaScript, typeScript, rust, python, go, shell, sql, pascal]⟩

end Highlighter.Bundled
