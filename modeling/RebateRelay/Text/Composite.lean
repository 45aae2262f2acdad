/-!
# Composite characters

A composite character is another way to write a character with a mark behind it. The table has the
pairs that Unicode 17 joins: a row has the second character, and then each first character with the
composite that the two make. Hangul syllables are reckoned, not listed: a leading consonant and a
vowel make a syllable, and so does such a syllable with a trailing consonant.
-/

namespace RebateRelay.Text

/-- Second characters, and the first characters with what the two make. -/
def compositeRows : List (Nat × String) := [
  (0x300, "AÀEÈIÌOÒUÙaàeèiìoòuùÜǛüǜNǸnǹЕЀИЍеѐиѝĒḔēḕŌṐōṑWẀwẁÂẦâầĂẰăằÊỀêềÔỒôồƠỜơờƯỪưừYỲyỳἀἂἁἃ"),
  (0x300, "ἈἊἉἋἐἒἑἓἘἚἙἛἠἢἡἣἨἪἩἫἰἲἱἳἸἺἹἻὀὂὁὃὈὊὉὋὐὒὑὓὙὛὠὢὡὣὨὪὩὫαὰεὲηὴιὶοὸυὺωὼΑᾺΕῈΗῊ᾿῍ϊῒΙῚ῾῝ϋῢ"),
  (0x300, "ΥῪ¨῭ΟῸΩῺ"),
  (0x301, "AÁEÉIÍOÓUÚYÝaáeéiíoóuúyýCĆcćLĹlĺNŃnńRŔrŕSŚsśZŹzźÜǗüǘGǴgǵÅǺåǻÆǼæǽØǾøǿ¨΅ΑΆΕΈΗΉΙΊΟΌ"),
  (0x301, "ΥΎΩΏϊΐαάεέηήιίϋΰοόυύωώϒϓГЃКЌгѓкќÇḈçḉĒḖēḗÏḮïḯKḰkḱMḾmḿÕṌõṍŌṒōṓPṔpṕŨṸũṹWẂwẃÂẤâấĂẮăắ"),
  (0x301, "ÊẾêếÔỐôốƠỚơớƯỨưứἀἄἁἅἈἌἉἍἐἔἑἕἘἜἙἝἠἤἡἥἨἬἩἭἰἴἱἵἸἼἹἽὀὄὁὅὈὌὉὍὐὔὑὕὙὝὠὤὡὥὨὬὩὭ᾿῎῾῞"),
  (0x302, "AÂEÊIÎOÔUÛaâeêiîoôuûCĈcĉGĜgĝHĤhĥJĴjĵSŜsŝWŴwŵYŶyŷZẐzẑẠẬạậẸỆẹệỌỘọộ"),
  (0x303, "AÃNÑOÕaãnñoõIĨiĩUŨuũVṼvṽÂẪâẫĂẴăẵEẼeẽÊỄêễÔỖôỗƠỠơỡƯỮưữYỸyỹ"),
  (0x304, "AĀaāEĒeēIĪiīOŌoōUŪuūÜǕüǖÄǞäǟȦǠȧǡÆǢæǣǪǬǫǭÖȪöȫÕȬõȭȮȰȯȱYȲyȳИӢиӣУӮуӯGḠgḡḶḸḷḹṚṜṛṝαᾱΑᾹ"),
  (0x304, "ιῑΙῙυῡΥῩ"),
  (0x306, "AĂaăEĔeĕGĞgğIĬiĭOŎoŏUŬuŭУЎИЙийуўЖӁжӂАӐаӑЕӖеӗȨḜȩḝẠẶạặαᾰΑᾸιῐΙῘυῠΥῨ"),
  (0x307, "CĊcċEĖeėGĠgġIİZŻzżAȦaȧOȮoȯBḂbḃDḊdḋFḞfḟHḢhḣMṀmṁNṄnṅPṖpṗRṘrṙSṠsṡŚṤśṥŠṦšṧṢṨṣṩTṪtṫWẆ"),
  (0x307, "wẇXẊxẋYẎyẏſẛ𐗒𐗉𐗚𐗤"),
  (0x308, "AÄEËIÏOÖUÜaäeëiïoöuüyÿYŸΙΪΥΫιϊυϋϒϔЕЁІЇеёіїАӒаӓӘӚәӛЖӜжӝЗӞзӟИӤиӥОӦоӧӨӪөӫЭӬэӭУӰуӱЧӴ"),
  (0x308, "чӵЫӸыӹHḦhḧÕṎõṏŪṺūṻWẄwẅXẌxẍtẗ"),
  (0x309, "AẢaảÂẨâẩĂẲăẳEẺeẻÊỂêểIỈiỉOỎoỏÔỔôổƠỞơởUỦuủƯỬưửYỶyỷ"),
  (0x30A, "AÅaåUŮuůwẘyẙ"),
  (0x30B, "OŐoőUŰuűУӲуӳ"),
  (0x30C, "CČcčDĎdďEĚeěLĽlľNŇnňRŘrřSŠsšTŤtťZŽzžAǍaǎIǏiǐOǑoǒUǓuǔÜǙüǚGǦgǧKǨkǩƷǮʒǯjǰHȞhȟ"),
  (0x30F, "AȀaȁEȄeȅIȈiȉOȌoȍRȐrȑUȔuȕѴѶѵѷ"),
  (0x311, "AȂaȃEȆeȇIȊiȋOȎoȏRȒrȓUȖuȗ"),
  (0x313, "αἀΑἈεἐΕἘηἠΗἨιἰΙἸοὀΟὈυὐωὠΩὨρῤ"),
  (0x314, "αἁΑἉεἑΕἙηἡΗἩιἱΙἹοὁΟὉυὑΥὙωὡΩὩρῥΡῬ"),
  (0x31B, "OƠoơUƯuư"),
  (0x323, "BḄbḅDḌdḍHḤhḥKḲkḳLḶlḷMṂmṃNṆnṇRṚrṛSṢsṣTṬtṭVṾvṿWẈwẉZẒzẓAẠaạEẸeẹIỊiịOỌoọƠỢơợUỤuụƯỰưự"),
  (0x323, "YỴyỵ"),
  (0x324, "UṲuṳ"),
  (0x325, "AḀaḁ"),
  (0x326, "SȘsșTȚtț"),
  (0x327, "CÇcçGĢgģKĶkķLĻlļNŅnņRŖrŗSŞsşTŢtţEȨeȩDḐdḑHḨhḩ"),
  (0x328, "AĄaąEĘeęIĮiįUŲuųOǪoǫ"),
  (0x32D, "DḒdḓEḘeḙLḼlḽNṊnṋTṰtṱUṶuṷ"),
  (0x32E, "HḪhḫ"),
  (0x330, "EḚeḛIḬiḭUṴuṵ"),
  (0x331, "BḆbḇDḎdḏKḴkḵLḺlḻNṈnṉRṞrṟTṮtṯZẔzẕhẖ"),
  (0x338, "←↚→↛↔↮⇐⇍⇔⇎⇒⇏∃∄∈∉∋∌∣∤∥∦∼≁≃≄≅≇≈≉=≠≡≢≍≭<≮>≯≤≰≥≱≲≴≳≵≶≸≷≹≺⊀≻⊁⊂⊄⊃⊅⊆⊈⊇⊉⊢⊬⊨⊭⊩⊮⊫⊯≼⋠≽⋡⊑⋢⊒⋣"),
  (0x338, "⊲⋪⊳⋫⊴⋬⊵⋭"),
  (0x342, "ἀἆἁἇἈἎἉἏἠἦἡἧἨἮἩἯἰἶἱἷἸἾἹἿὐὖὑὗὙὟὠὦὡὧὨὮὩὯαᾶ¨῁ηῆ᾿῏ιῖϊῗ῾῟υῦϋῧωῶ"),
  (0x345, "ἀᾀἁᾁἂᾂἃᾃἄᾄἅᾅἆᾆἇᾇἈᾈἉᾉἊᾊἋᾋἌᾌἍᾍἎᾎἏᾏἠᾐἡᾑἢᾒἣᾓἤᾔἥᾕἦᾖἧᾗἨᾘἩᾙἪᾚἫᾛἬᾜἭᾝἮᾞἯᾟὠᾠὡᾡὢᾢὣᾣὤᾤὥᾥὦᾦὧᾧ"),
  (0x345, "ὨᾨὩᾩὪᾪὫᾫὬᾬὭᾭὮᾮὯᾯὰᾲαᾳάᾴᾶᾷΑᾼὴῂηῃήῄῆῇΗῌὼῲωῳώῴῶῷΩῼ"),
  (0x653, "اآ"),
  (0x654, "اأوؤيئەۀہۂےۓ"),
  (0x655, "اإ"),
  (0x93C, "नऩरऱळऴ"),
  (0x9BE, "েো"),
  (0x9D7, "েৌ"),
  (0xB3E, "େୋ"),
  (0xB56, "େୈ"),
  (0xB57, "େୌ"),
  (0xBBE, "ெொேோ"),
  (0xBD7, "ஒஔெௌ"),
  (0xC56, "ెై"),
  (0xCC2, "ೆೊ"),
  (0xCD5, "ಿೀೆೇೊೋ"),
  (0xCD6, "ೆೈ"),
  (0xD3E, "െൊേോ"),
  (0xD57, "െൌ"),
  (0xDCA, "ෙේොෝ"),
  (0xDCF, "ෙො"),
  (0xDDF, "ෙෞ"),
  (0x102E, "ဥဦ"),
  (0x1B35, "ᬅᬆᬇᬈᬉᬊᬋᬌᬍᬎᬑᬒᬺᬻᬼᬽᬾᭀᬿᭁᭂᭃ"),
  (0x3099, "かがきぎくぐけげこごさざしじすずせぜそぞただちぢつづてでとどはばひびふぶへべほぼうゔゝゞカガキギクグケゲコゴサザシジスズセゼソゾタダチヂツヅテデトドハバヒビフブ"),
  (0x3099, "ヘベホボウヴワヷヰヸヱヹヲヺヽヾ"),
  (0x309A, "はぱひぴふぷへぺほぽハパヒピフプヘペホポ"),
  (0x110BA, "𑂙𑂚𑂛𑂜𑂥𑂫"),
  (0x11127, "𑄱𑄮𑄲𑄯"),
  (0x1133E, "𑍇𑍋"),
  (0x11357, "𑍇𑍌"),
  (0x113B8, "𑏅𑎸"),
  (0x113BB, "𑎄𑎅"),
  (0x113C2, "𑎋𑎎𑏅𑏂"),
  (0x113C9, "𑎂𑎃𑎐𑎑𑏅𑏉"),
  (0x114B0, "𑒹𑒼"),
  (0x114BA, "𑒹𑒻"),
  (0x114BD, "𑒹𑒾"),
  (0x115AF, "𑖸𑖺𑖹𑖻"),
  (0x11930, "𑤵𑤸"),
  (0x1611E, "𖄡𖄞"),
  (0x1611F, "𖄦𖄩𖄤𖄡𖄦𖄢𖄧"),
  (0x16120, "𖄨𖄡𖄨"),
  (0x16129, "𖄡𖄩"),
  (0x16D67, "𖵨𖵧𖵣𖵩𖵩𖵪")]

/-- A character and a mark, and the composite that they make. -/
structure Composite where
  first : Char
  second : Char
  whole : Char
  deriving DecidableEq, Repr

/-- The composites of one row. -/
def Composite.ofRow (second : Char) : List Char → List Composite
  | first :: whole :: cs => ⟨first, second, whole⟩ :: Composite.ofRow second cs
  | _ => []

/-- All composites but the Hangul syllables. -/
def composites : List Composite :=
  compositeRows.flatMap fun row => Composite.ofRow (Char.ofNat row.1) row.2.toList

namespace Hangul

/-- The first leading consonant. -/
def leadBase : Nat := 0x1100

/-- The first vowel. -/
def vowelBase : Nat := 0x1161

/-- The place before the first trailing consonant. -/
def trailBase : Nat := 0x11A7

/-- The first syllable. -/
def syllableBase : Nat := 0xAC00

/-- How many leading consonants there are. -/
def leadCount : Nat := 19

/-- How many vowels there are. -/
def vowelCount : Nat := 21

/-- How many trailing consonants there are, with none as one of them. -/
def trailCount : Nat := 28

/-- Whether a number is one of so many from a base on. -/
def isOneOf (n base count : Nat) : Bool := base ≤ n && n < base + count

/-- The syllable that two characters make. -/
def join? (first second : Nat) : Option Nat :=
  if isOneOf first leadBase leadCount && isOneOf second vowelBase vowelCount then
    some (syllableBase +
      ((first - leadBase) * vowelCount + (second - vowelBase)) * trailCount)
  else if isOneOf first syllableBase (leadCount * vowelCount * trailCount) &&
      (first - syllableBase) % trailCount == 0 &&
      isOneOf second (trailBase + 1) (trailCount - 1) then
    some (first + (second - trailBase))
  else none

/-- The two characters that a syllable is made of. -/
def split? (n : Nat) : Option (Nat × Nat) :=
  if !isOneOf n syllableBase (leadCount * vowelCount * trailCount) then none
  else
    let place := n - syllableBase
    let trail := place % trailCount
    if trail != 0 then some (n - trail, trailBase + trail)
    else
      let pair := place / trailCount
      some (leadBase + pair / vowelCount, vowelBase + pair % vowelCount)

end Hangul

/-- The composite that two characters make. -/
def joinPair? (first second : Char) : Option Char :=
  match Hangul.join? first.toNat second.toNat with
  | some n => some (Char.ofNat n)
  | none =>
    (composites.find? fun p => p.first == first && p.second == second).map Composite.whole

/-- The two characters that a composite is made of. -/
def splitPair? (whole : Char) : Option (Char × Char) :=
  match Hangul.split? whole.toNat with
  | some (first, second) => some (Char.ofNat first, Char.ofNat second)
  | none => (composites.find? fun p => p.whole == whole).map fun p => (p.first, p.second)

end RebateRelay.Text
