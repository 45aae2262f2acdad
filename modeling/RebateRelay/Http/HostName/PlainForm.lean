import RebateRelay.Text.Split
import RebateRelay.Text.Unprintable

/-!
# Plain forms

A name of a host may be written in many ways that mean the same: in capitals, in wide or ligated
letters, with characters in it that do not show. The plain form of a character is what all these
are brought to before names are compared; the tables are those of Unicode 17. Some characters have
none, and no name may have them.
-/

namespace RebateRelay.Http.HostName

open Text

/-- Characters at equal distances from the first to the last, and their plain forms with blanks in
between. -/
structure FormRow where
  first : Nat
  last : Nat
  step : Nat
  forms : String

/-- The plain forms below U+3000 that differ from the character. -/
def formRows : List FormRow := [
  ⟨0xAA, 0xAA, 1, "a"⟩,
  ⟨0xB2, 0xB3, 1, "2 3"⟩,
  ⟨0xB5, 0xB5, 1, "μ"⟩,
  ⟨0xB9, 0xBA, 1, "1 o"⟩,
  ⟨0xBC, 0xBE, 1, "1⁄4 1⁄2 3⁄4"⟩,
  ⟨0xC0, 0xD6, 1, "à á â ã ä å æ ç è é ê ë ì í î ï ð ñ ò ó ô õ ö"⟩,
  ⟨0xD8, 0xDE, 1, "ø ù ú û ü ý þ"⟩,
  ⟨0x100, 0x132, 2, "ā ă ą ć ĉ ċ č ď đ ē ĕ ė ę ě ĝ ğ ġ ģ ĥ ħ ĩ ī ĭ į i̇ ij"⟩,
  ⟨0x133, 0x134, 1, "ij ĵ"⟩,
  ⟨0x136, 0x136, 1, "ķ"⟩,
  ⟨0x139, 0x13F, 2, "ĺ ļ ľ l·"⟩,
  ⟨0x140, 0x141, 1, "l· ł"⟩,
  ⟨0x143, 0x149, 2, "ń ņ ň ʼn"⟩,
  ⟨0x14A, 0x178, 2, "ŋ ō ŏ ő œ ŕ ŗ ř ś ŝ ş š ţ ť ŧ ũ ū ŭ ů ű ų ŵ ŷ ÿ"⟩,
  ⟨0x179, 0x181, 2, "ź ż ž s ɓ"⟩,
  ⟨0x182, 0x186, 2, "ƃ ƅ ɔ"⟩,
  ⟨0x187, 0x189, 2, "ƈ ɖ"⟩,
  ⟨0x18A, 0x18B, 1, "ɗ ƌ"⟩,
  ⟨0x18E, 0x191, 1, "ǝ ə ɛ ƒ"⟩,
  ⟨0x193, 0x194, 1, "ɠ ɣ"⟩,
  ⟨0x196, 0x198, 1, "ɩ ɨ ƙ"⟩,
  ⟨0x19C, 0x19D, 1, "ɯ ɲ"⟩,
  ⟨0x19F, 0x1A0, 1, "ɵ ơ"⟩,
  ⟨0x1A2, 0x1A6, 2, "ƣ ƥ ʀ"⟩,
  ⟨0x1A7, 0x1A9, 2, "ƨ ʃ"⟩,
  ⟨0x1AC, 0x1AE, 2, "ƭ ʈ"⟩,
  ⟨0x1AF, 0x1B1, 2, "ư ʊ"⟩,
  ⟨0x1B2, 0x1B3, 1, "ʋ ƴ"⟩,
  ⟨0x1B5, 0x1B7, 2, "ƶ ʒ"⟩,
  ⟨0x1B8, 0x1B8, 1, "ƹ"⟩,
  ⟨0x1BC, 0x1BC, 1, "ƽ"⟩,
  ⟨0x1C4, 0x1CD, 1, "dž dž dž lj lj lj nj nj nj ǎ"⟩,
  ⟨0x1CF, 0x1DB, 2, "ǐ ǒ ǔ ǖ ǘ ǚ ǜ"⟩,
  ⟨0x1DE, 0x1EE, 2, "ǟ ǡ ǣ ǥ ǧ ǩ ǫ ǭ ǯ"⟩,
  ⟨0x1F1, 0x1F4, 1, "dz dz dz ǵ"⟩,
  ⟨0x1F6, 0x1F8, 1, "ƕ ƿ ǹ"⟩,
  ⟨0x1FA, 0x232, 2, "ǻ ǽ ǿ ȁ ȃ ȅ ȇ ȉ ȋ ȍ ȏ ȑ ȓ ȕ ȗ ș ț ȝ ȟ ƞ ȣ ȥ ȧ ȩ ȫ ȭ ȯ ȱ ȳ"⟩,
  ⟨0x23A, 0x23B, 1, "ⱥ ȼ"⟩,
  ⟨0x23D, 0x23E, 1, "ƚ ⱦ"⟩,
  ⟨0x241, 0x243, 2, "ɂ ƀ"⟩,
  ⟨0x244, 0x246, 1, "ʉ ʌ ɇ"⟩,
  ⟨0x248, 0x24E, 2, "ɉ ɋ ɍ ɏ"⟩,
  ⟨0x2B0, 0x2B8, 1, "h ɦ j r ɹ ɻ ʁ w y"⟩,
  ⟨0x2E0, 0x2E4, 1, "ɣ l s x ʕ"⟩,
  ⟨0x340, 0x341, 1, "̀ ́"⟩,
  ⟨0x343, 0x345, 1, "̓ ̈́ ι"⟩,
  ⟨0x370, 0x376, 2, "ͱ ͳ ʹ ͷ"⟩,
  ⟨0x37E, 0x37F, 1, "; ϳ"⟩,
  ⟨0x386, 0x38A, 1, "ά · έ ή ί"⟩,
  ⟨0x38C, 0x38E, 2, "ό ύ"⟩,
  ⟨0x38F, 0x391, 2, "ώ α"⟩,
  ⟨0x392, 0x3A1, 1, "β γ δ ε ζ η θ ι κ λ μ ν ξ ο π ρ"⟩,
  ⟨0x3A3, 0x3AB, 1, "σ τ υ φ χ ψ ω ϊ ϋ"⟩,
  ⟨0x3CF, 0x3D6, 1, "ϗ β θ υ ύ ϋ φ π"⟩,
  ⟨0x3D8, 0x3F0, 2, "ϙ ϛ ϝ ϟ ϡ ϣ ϥ ϧ ϩ ϫ ϭ ϯ κ"⟩,
  ⟨0x3F1, 0x3F2, 1, "ρ σ"⟩,
  ⟨0x3F4, 0x3F5, 1, "θ ε"⟩,
  ⟨0x3F7, 0x3F9, 2, "ϸ σ"⟩,
  ⟨0x3FA, 0x3FA, 1, "ϻ"⟩,
  ⟨0x3FD, 0x420, 1, "ͻ ͼ ͽ ѐ ё ђ ѓ є ѕ і ї ј љ њ ћ ќ ѝ ў џ а б в г д е ж з и й к л м н о п р"⟩,
  ⟨0x421, 0x42F, 1, "с т у ф х ц ч ш щ ъ ы ь э ю я"⟩,
  ⟨0x460, 0x480, 2, "ѡ ѣ ѥ ѧ ѩ ѫ ѭ ѯ ѱ ѳ ѵ ѷ ѹ ѻ ѽ ѿ ҁ"⟩,
  ⟨0x48A, 0x4C0, 2, "ҋ ҍ ҏ ґ ғ ҕ җ ҙ қ ҝ ҟ ҡ ң ҥ ҧ ҩ ҫ ҭ ү ұ ҳ ҵ ҷ ҹ һ ҽ ҿ ӏ"⟩,
  ⟨0x4C1, 0x4CD, 2, "ӂ ӄ ӆ ӈ ӊ ӌ ӎ"⟩,
  ⟨0x4D0, 0x516, 2, "ӑ ӓ ӕ ӗ ә ӛ ӝ ӟ ӡ ӣ ӥ ӧ ө ӫ ӭ ӯ ӱ ӳ ӵ ӷ ӹ ӻ ӽ ӿ ԁ ԃ ԅ ԇ ԉ ԋ ԍ ԏ ԑ ԓ ԕ ԗ"⟩,
  ⟨0x518, 0x52E, 2, "ԙ ԛ ԝ ԟ ԡ ԣ ԥ ԧ ԩ ԫ ԭ ԯ"⟩,
  ⟨0x531, 0x554, 1, "ա բ գ դ ե զ է ը թ ժ ի լ խ ծ կ հ ձ ղ ճ մ յ ն շ ո չ պ ջ ռ ս վ տ ր ց ւ փ ք"⟩,
  ⟨0x555, 0x556, 1, "օ ֆ"⟩,
  ⟨0x587, 0x587, 1, "եւ"⟩,
  ⟨0x675, 0x678, 1, "اٴ وٴ ۇٴ يٴ"⟩,
  ⟨0x958, 0x95F, 1, "क़ ख़ ग़ ज़ ड़ ढ़ फ़ य़"⟩,
  ⟨0x9DC, 0x9DD, 1, "ড় ঢ়"⟩,
  ⟨0x9DF, 0x9DF, 1, "য়"⟩,
  ⟨0xA33, 0xA33, 1, "ਲ਼"⟩,
  ⟨0xA36, 0xA36, 1, "ਸ਼"⟩,
  ⟨0xA59, 0xA5B, 1, "ਖ਼ ਗ਼ ਜ਼"⟩,
  ⟨0xA5E, 0xA5E, 1, "ਫ਼"⟩,
  ⟨0xB5C, 0xB5D, 1, "ଡ଼ ଢ଼"⟩,
  ⟨0xE33, 0xE33, 1, "ํา"⟩,
  ⟨0xEB3, 0xEB3, 1, "ໍາ"⟩,
  ⟨0xEDC, 0xEDD, 1, "ຫນ ຫມ"⟩,
  ⟨0xF0C, 0xF0C, 1, "་"⟩,
  ⟨0xF43, 0xF43, 1, "གྷ"⟩,
  ⟨0xF4D, 0xF4D, 1, "ཌྷ"⟩,
  ⟨0xF52, 0xF52, 1, "དྷ"⟩,
  ⟨0xF57, 0xF57, 1, "བྷ"⟩,
  ⟨0xF5C, 0xF5C, 1, "ཛྷ"⟩,
  ⟨0xF69, 0xF69, 1, "ཀྵ"⟩,
  ⟨0xF73, 0xF75, 2, "ཱི ཱུ"⟩,
  ⟨0xF76, 0xF79, 1, "ྲྀ ྲཱྀ ླྀ ླཱྀ"⟩,
  ⟨0xF81, 0xF81, 1, "ཱྀ"⟩,
  ⟨0xF93, 0xF93, 1, "ྒྷ"⟩,
  ⟨0xF9D, 0xF9D, 1, "ྜྷ"⟩,
  ⟨0xFA2, 0xFA2, 1, "ྡྷ"⟩,
  ⟨0xFA7, 0xFA7, 1, "ྦྷ"⟩,
  ⟨0xFAC, 0xFAC, 1, "ྫྷ"⟩,
  ⟨0xFB9, 0xFB9, 1, "ྐྵ"⟩,
  ⟨0x10A0, 0x10C2, 1, "ⴀ ⴁ ⴂ ⴃ ⴄ ⴅ ⴆ ⴇ ⴈ ⴉ ⴊ ⴋ ⴌ ⴍ ⴎ ⴏ ⴐ ⴑ ⴒ ⴓ ⴔ ⴕ ⴖ ⴗ ⴘ ⴙ ⴚ ⴛ ⴜ ⴝ ⴞ ⴟ ⴠ ⴡ ⴢ"⟩,
  ⟨0x10C3, 0x10C5, 1, "ⴣ ⴤ ⴥ"⟩,
  ⟨0x10C7, 0x10C7, 1, "ⴧ"⟩,
  ⟨0x10CD, 0x10CD, 1, "ⴭ"⟩,
  ⟨0x10FC, 0x10FC, 1, "ნ"⟩,
  ⟨0x13F8, 0x13FD, 1, "Ᏸ Ᏹ Ᏺ Ᏻ Ᏼ Ᏽ"⟩,
  ⟨0x1C80, 0x1C89, 1, "в д о с т т ъ ѣ ꙋ ᲊ"⟩,
  ⟨0x1C90, 0x1CB2, 1, "ა ბ გ დ ე ვ ზ თ ი კ ლ მ ნ ო პ ჟ რ ს ტ უ ფ ქ ღ ყ შ ჩ ც ძ წ ჭ ხ ჯ ჰ ჱ ჲ"⟩,
  ⟨0x1CB3, 0x1CBA, 1, "ჳ ჴ ჵ ჶ ჷ ჸ ჹ ჺ"⟩,
  ⟨0x1CBD, 0x1CBF, 1, "ჽ ჾ ჿ"⟩,
  ⟨0x1D2C, 0x1D2E, 1, "a æ b"⟩,
  ⟨0x1D30, 0x1D3A, 1, "d e ǝ g h i j k l m n"⟩,
  ⟨0x1D3C, 0x1D4D, 1, "o ȣ p r t u w a ɐ ɑ ᴂ b d e ə ɛ ɜ g"⟩,
  ⟨0x1D4F, 0x1D6A, 1, "k m ŋ o ɔ ᴖ ᴗ p t u ᴝ ɯ v ᴥ β γ δ φ χ i r u v β γ ρ φ χ"⟩,
  ⟨0x1D78, 0x1D78, 1, "н"⟩,
  ⟨0x1D9B, 0x1DBD, 1, "ɒ c ɕ ð ɜ f ɟ ɡ ɥ ɨ ɩ ɪ ᵻ ʝ ɭ ᶅ ʟ ɱ ɰ ɲ ɳ ɴ ɵ ɸ ʂ ʃ ƫ ʉ ʊ ᴜ ʋ ʌ z ʐ ʑ"⟩,
  ⟨0x1DBE, 0x1DBF, 1, "ʒ θ"⟩,
  ⟨0x1E00, 0x1E44, 2, "ḁ ḃ ḅ ḇ ḉ ḋ ḍ ḏ ḑ ḓ ḕ ḗ ḙ ḛ ḝ ḟ ḡ ḣ ḥ ḧ ḩ ḫ ḭ ḯ ḱ ḳ ḵ ḷ ḹ ḻ ḽ ḿ ṁ ṃ ṅ"⟩,
  ⟨0x1E46, 0x1E8A, 2, "ṇ ṉ ṋ ṍ ṏ ṑ ṓ ṕ ṗ ṙ ṛ ṝ ṟ ṡ ṣ ṥ ṧ ṩ ṫ ṭ ṯ ṱ ṳ ṵ ṷ ṹ ṻ ṽ ṿ ẁ ẃ ẅ ẇ ẉ ẋ"⟩,
  ⟨0x1E8C, 0x1E94, 2, "ẍ ẏ ẑ ẓ ẕ"⟩,
  ⟨0x1E9A, 0x1E9B, 1, "aʾ ṡ"⟩,
  ⟨0x1E9E, 0x1EE2, 2, "ß ạ ả ấ ầ ẩ ẫ ậ ắ ằ ẳ ẵ ặ ẹ ẻ ẽ ế ề ể ễ ệ ỉ ị ọ ỏ ố ồ ổ ỗ ộ ớ ờ ở ỡ ợ"⟩,
  ⟨0x1EE4, 0x1EFE, 2, "ụ ủ ứ ừ ử ữ ự ỳ ỵ ỷ ỹ ỻ ỽ ỿ"⟩,
  ⟨0x1F08, 0x1F0F, 1, "ἀ ἁ ἂ ἃ ἄ ἅ ἆ ἇ"⟩,
  ⟨0x1F18, 0x1F1D, 1, "ἐ ἑ ἒ ἓ ἔ ἕ"⟩,
  ⟨0x1F28, 0x1F2F, 1, "ἠ ἡ ἢ ἣ ἤ ἥ ἦ ἧ"⟩,
  ⟨0x1F38, 0x1F3F, 1, "ἰ ἱ ἲ ἳ ἴ ἵ ἶ ἷ"⟩,
  ⟨0x1F48, 0x1F4D, 1, "ὀ ὁ ὂ ὃ ὄ ὅ"⟩,
  ⟨0x1F59, 0x1F5F, 2, "ὑ ὓ ὕ ὗ"⟩,
  ⟨0x1F68, 0x1F6F, 1, "ὠ ὡ ὢ ὣ ὤ ὥ ὦ ὧ"⟩,
  ⟨0x1F71, 0x1F7D, 2, "ά έ ή ί ό ύ ώ"⟩,
  ⟨0x1F80, 0x1F96, 1, "ἀι ἁι ἂι ἃι ἄι ἅι ἆι ἇι ἀι ἁι ἂι ἃι ἄι ἅι ἆι ἇι ἠι ἡι ἢι ἣι ἤι ἥι ἦι"⟩,
  ⟨0x1F97, 0x1FAD, 1, "ἧι ἠι ἡι ἢι ἣι ἤι ἥι ἦι ἧι ὠι ὡι ὢι ὣι ὤι ὥι ὦι ὧι ὠι ὡι ὢι ὣι ὤι ὥι"⟩,
  ⟨0x1FAE, 0x1FAF, 1, "ὦι ὧι"⟩,
  ⟨0x1FB2, 0x1FB4, 1, "ὰι αι άι"⟩,
  ⟨0x1FB7, 0x1FBC, 1, "ᾶι ᾰ ᾱ ὰ ά αι"⟩,
  ⟨0x1FBE, 0x1FBE, 1, "ι"⟩,
  ⟨0x1FC2, 0x1FC4, 1, "ὴι ηι ήι"⟩,
  ⟨0x1FC7, 0x1FCC, 1, "ῆι ὲ έ ὴ ή ηι"⟩,
  ⟨0x1FD3, 0x1FD3, 1, "ΐ"⟩,
  ⟨0x1FD8, 0x1FDB, 1, "ῐ ῑ ὶ ί"⟩,
  ⟨0x1FE3, 0x1FE3, 1, "ΰ"⟩,
  ⟨0x1FE8, 0x1FEC, 1, "ῠ ῡ ὺ ύ ῥ"⟩,
  ⟨0x1FEF, 0x1FEF, 1, "\x60"⟩,
  ⟨0x1FF2, 0x1FF4, 1, "ὼι ωι ώι"⟩,
  ⟨0x1FF7, 0x1FFC, 1, "ῶι ὸ ό ὼ ώ ωι"⟩,
  ⟨0x2011, 0x2011, 1, "‐"⟩,
  ⟨0x2033, 0x2034, 1, "′′ ′′′"⟩,
  ⟨0x2036, 0x2037, 1, "‵‵ ‵‵‵"⟩,
  ⟨0x203C, 0x203C, 1, "!!"⟩,
  ⟨0x2057, 0x2057, 1, "′′′′"⟩,
  ⟨0x2070, 0x2071, 1, "0 i"⟩,
  ⟨0x2074, 0x208E, 1, "4 5 6 7 8 9 + − = ( ) n 0 1 2 3 4 5 6 7 8 9 + − = ( )"⟩,
  ⟨0x2090, 0x209C, 1, "a e o x ə h k l m n p s t"⟩,
  ⟨0x20A8, 0x20A8, 1, "rs"⟩,
  ⟨0x2102, 0x2103, 1, "c °c"⟩,
  ⟨0x2107, 0x2109, 2, "ɛ °f"⟩,
  ⟨0x210A, 0x2113, 1, "g h h h h ħ i i l l"⟩,
  ⟨0x2115, 0x2116, 1, "n no"⟩,
  ⟨0x2119, 0x211D, 1, "p q r r r"⟩,
  ⟨0x2120, 0x2122, 1, "sm tel tm"⟩,
  ⟨0x2124, 0x212A, 2, "z ω z k"⟩,
  ⟨0x212B, 0x212D, 1, "å b c"⟩,
  ⟨0x212F, 0x2139, 1, "e e f ⅎ m o א ב ג ד i"⟩,
  ⟨0x213B, 0x2140, 1, "fax π γ γ π ∑"⟩,
  ⟨0x2145, 0x2149, 1, "d d e i j"⟩,
  ⟨0x2150, 0x2161, 1, "1⁄7 1⁄9 1⁄10 1⁄3 2⁄3 1⁄5 2⁄5 3⁄5 4⁄5 1⁄6 5⁄6 1⁄8 3⁄8 5⁄8 7⁄8 1⁄ i ii"⟩,
  ⟨0x2162, 0x2178, 1, "iii iv v vi vii viii ix x xi xii l c d m i ii iii iv v vi vii viii ix"⟩,
  ⟨0x2179, 0x217F, 1, "x xi xii l c d m"⟩,
  ⟨0x2183, 0x2183, 1, "ↄ"⟩,
  ⟨0x2189, 0x2189, 1, "0⁄3"⟩,
  ⟨0x222C, 0x222D, 1, "∫∫ ∫∫∫"⟩,
  ⟨0x222F, 0x2230, 1, "∮∮ ∮∮∮"⟩,
  ⟨0x2329, 0x232A, 1, "〈 〉"⟩,
  ⟨0x2460, 0x2478, 1, "1 2 3 4 5 6 7 8 9 10 11 12 13 14 15 16 17 18 19 20 (1) (2) (3) (4) (5)"⟩,
  ⟨0x2479, 0x2487, 1, "(6) (7) (8) (9) (10) (11) (12) (13) (14) (15) (16) (17) (18) (19) (20)"⟩,
  ⟨0x249C, 0x24AC, 1, "(a) (b) (c) (d) (e) (f) (g) (h) (i) (j) (k) (l) (m) (n) (o) (p) (q)"⟩,
  ⟨0x24AD, 0x24C6, 1, "(r) (s) (t) (u) (v) (w) (x) (y) (z) a b c d e f g h i j k l m n o p q"⟩,
  ⟨0x24C7, 0x24E9, 1, "r s t u v w x y z a b c d e f g h i j k l m n o p q r s t u v w x y z"⟩,
  ⟨0x24EA, 0x24EA, 1, "0"⟩,
  ⟨0x2A0C, 0x2A0C, 1, "∫∫∫∫"⟩,
  ⟨0x2A75, 0x2A76, 1, "== ==="⟩,
  ⟨0x2ADC, 0x2ADC, 1, "⫝̸"⟩,
  ⟨0x2C00, 0x2C22, 1, "ⰰ ⰱ ⰲ ⰳ ⰴ ⰵ ⰶ ⰷ ⰸ ⰹ ⰺ ⰻ ⰼ ⰽ ⰾ ⰿ ⱀ ⱁ ⱂ ⱃ ⱄ ⱅ ⱆ ⱇ ⱈ ⱉ ⱊ ⱋ ⱌ ⱍ ⱎ ⱏ ⱐ ⱑ ⱒ"⟩,
  ⟨0x2C23, 0x2C2F, 1, "ⱓ ⱔ ⱕ ⱖ ⱗ ⱘ ⱙ ⱚ ⱛ ⱜ ⱝ ⱞ ⱟ"⟩,
  ⟨0x2C60, 0x2C62, 2, "ⱡ ɫ"⟩,
  ⟨0x2C63, 0x2C64, 1, "ᵽ ɽ"⟩,
  ⟨0x2C67, 0x2C6D, 2, "ⱨ ⱪ ⱬ ɑ"⟩,
  ⟨0x2C6E, 0x2C70, 1, "ɱ ɐ ɒ"⟩,
  ⟨0x2C72, 0x2C72, 1, "ⱳ"⟩,
  ⟨0x2C75, 0x2C75, 1, "ⱶ"⟩,
  ⟨0x2C7C, 0x2C80, 1, "j v ȿ ɀ ⲁ"⟩,
  ⟨0x2C82, 0x2CC6, 2, "ⲃ ⲅ ⲇ ⲉ ⲋ ⲍ ⲏ ⲑ ⲓ ⲕ ⲗ ⲙ ⲛ ⲝ ⲟ ⲡ ⲣ ⲥ ⲧ ⲩ ⲫ ⲭ ⲯ ⲱ ⲳ ⲵ ⲷ ⲹ ⲻ ⲽ ⲿ ⳁ ⳃ ⳅ ⳇ"⟩,
  ⟨0x2CC8, 0x2CE2, 2, "ⳉ ⳋ ⳍ ⳏ ⳑ ⳓ ⳕ ⳗ ⳙ ⳛ ⳝ ⳟ ⳡ ⳣ"⟩,
  ⟨0x2CEB, 0x2CED, 2, "ⳬ ⳮ"⟩,
  ⟨0x2CF2, 0x2CF2, 1, "ⳳ"⟩,
  ⟨0x2D6F, 0x2D6F, 1, "ⵡ"⟩,
  ⟨0x2E9F, 0x2E9F, 1, "母"⟩,
  ⟨0x2EF3, 0x2EF3, 1, "龟"⟩,
  ⟨0x2F00, 0x2F22, 1, "一 丨 丶 丿 乙 亅 二 亠 人 儿 入 八 冂 冖 冫 几 凵 刀 力 勹 匕 匚 匸 十 卜 卩 厂 厶 又 口 囗 土 士 夂 夊"⟩,
  ⟨0x2F23, 0x2F45, 1, "夕 大 女 子 宀 寸 小 尢 尸 屮 山 巛 工 己 巾 干 幺 广 廴 廾 弋 弓 彐 彡 彳 心 戈 戶 手 支 攴 文 斗 斤 方"⟩,
  ⟨0x2F46, 0x2F68, 1, "无 日 曰 月 木 欠 止 歹 殳 毋 比 毛 氏 气 水 火 爪 父 爻 爿 片 牙 牛 犬 玄 玉 瓜 瓦 甘 生 用 田 疋 疒 癶"⟩,
  ⟨0x2F69, 0x2F8B, 1, "白 皮 皿 目 矛 矢 石 示 禸 禾 穴 立 竹 米 糸 缶 网 羊 羽 老 而 耒 耳 聿 肉 臣 自 至 臼 舌 舛 舟 艮 色 艸"⟩,
  ⟨0x2F8C, 0x2FAE, 1, "虍 虫 血 行 衣 襾 見 角 言 谷 豆 豕 豸 貝 赤 走 足 身 車 辛 辰 辵 邑 酉 釆 里 金 長 門 阜 隶 隹 雨 靑 非"⟩,
  ⟨0x2FAF, 0x2FD1, 1, "面 革 韋 韭 音 頁 風 飛 食 首 香 馬 骨 高 髟 鬥 鬯 鬲 鬼 魚 鳥 鹵 鹿 麥 麻 黃 黍 黑 黹 黽 鼎 鼓 鼠 鼻 齊"⟩,
  ⟨0x2FD2, 0x2FD5, 1, "齒 龍 龜 龠"⟩]

/-- The plain forms from U+3000 on that differ from the character. -/
def laterFormRows : List FormRow := [
  ⟨0x3002, 0x3002, 1, "."⟩,
  ⟨0x3036, 0x3038, 2, "〒 十"⟩,
  ⟨0x3039, 0x303A, 1, "卄 卅"⟩,
  ⟨0x309F, 0x309F, 1, "より"⟩,
  ⟨0x30FF, 0x30FF, 1, "コト"⟩,
  ⟨0x3131, 0x3153, 1, "ᄀ ᄁ ᆪ ᄂ ᆬ ᆭ ᄃ ᄄ ᄅ ᆰ ᆱ ᆲ ᆳ ᆴ ᆵ ᄚ ᄆ ᄇ ᄈ ᄡ ᄉ ᄊ ᄋ ᄌ ᄍ ᄎ ᄏ ᄐ ᄑ ᄒ ᅡ ᅢ ᅣ ᅤ ᅥ"⟩,
  ⟨0x3154, 0x3163, 1, "ᅦ ᅧ ᅨ ᅩ ᅪ ᅫ ᅬ ᅭ ᅮ ᅯ ᅰ ᅱ ᅲ ᅳ ᅴ ᅵ"⟩,
  ⟨0x3165, 0x3187, 1, "ᄔ ᄕ ᇇ ᇈ ᇌ ᇎ ᇓ ᇗ ᇙ ᄜ ᇝ ᇟ ᄝ ᄞ ᄠ ᄢ ᄣ ᄧ ᄩ ᄫ ᄬ ᄭ ᄮ ᄯ ᄲ ᄶ ᅀ ᅇ ᅌ ᇱ ᇲ ᅗ ᅘ ᅙ ᆄ"⟩,
  ⟨0x3188, 0x318E, 1, "ᆅ ᆈ ᆑ ᆒ ᆔ ᆞ ᆡ"⟩,
  ⟨0x3192, 0x319F, 1, "一 二 三 四 上 中 下 甲 乙 丙 丁 天 地 人"⟩,
  ⟨0x3200, 0x3210, 1, "(ᄀ) (ᄂ) (ᄃ) (ᄅ) (ᄆ) (ᄇ) (ᄉ) (ᄋ) (ᄌ) (ᄎ) (ᄏ) (ᄐ) (ᄑ) (ᄒ) (가) (나) (다)"⟩,
  ⟨0x3211, 0x321E, 1, "(라) (마) (바) (사) (아) (자) (차) (카) (타) (파) (하) (주) (오전) (오후)"⟩,
  ⟨0x3220, 0x3230, 1, "(一) (二) (三) (四) (五) (六) (七) (八) (九) (十) (月) (火) (水) (木) (金) (土) (日)"⟩,
  ⟨0x3231, 0x3241, 1, "(株) (有) (社) (名) (特) (財) (祝) (労) (代) (呼) (学) (監) (企) (資) (協) (祭) (休)"⟩,
  ⟨0x3242, 0x3247, 1, "(自) (至) 問 幼 文 箏"⟩,
  ⟨0x3250, 0x326A, 1, "pte 21 22 23 24 25 26 27 28 29 30 31 32 33 34 35 ᄀ ᄂ ᄃ ᄅ ᄆ ᄇ ᄉ ᄋ ᄌ ᄎ ᄏ"⟩,
  ⟨0x326B, 0x327E, 1, "ᄐ ᄑ ᄒ 가 나 다 라 마 바 사 아 자 차 카 타 파 하 참고 주의 우"⟩,
  ⟨0x3280, 0x32A2, 1, "一 二 三 四 五 六 七 八 九 十 月 火 水 木 金 土 日 株 有 社 名 特 財 祝 労 秘 男 女 適 優 印 注 項 休 写"⟩,
  ⟨0x32A3, 0x32BE, 1, "正 上 中 下 左 右 医 宗 学 監 企 資 協 夜 36 37 38 39 40 41 42 43 44 45 46 47 48 49"⟩,
  ⟨0x32BF, 0x32D6, 1, "50 1月 2月 3月 4月 5月 6月 7月 8月 9月 10月 11月 12月 hg erg ev ltd ア イ ウ エ オ カ キ"⟩,
  ⟨0x32D7, 0x32F9, 1, "ク ケ コ サ シ ス セ ソ タ チ ツ テ ト ナ ニ ヌ ネ ノ ハ ヒ フ ヘ ホ マ ミ ム メ モ ヤ ユ ヨ ラ リ ル レ"⟩,
  ⟨0x32FA, 0x330B, 1, "ロ ワ ヰ ヱ ヲ 令和 アパート アルファ アンペア アール イニング インチ ウォン エスクード エーカー オンス オーム カイリ"⟩,
  ⟨0x330C, 0x3319, 1, "カラット カロリー ガロン ガンマ ギガ ギニー キュリー ギルダー キロ キログラム キロメートル キロワット グラム グラムトン"⟩,
  ⟨0x331A, 0x332A, 1, "クルゼイロ クローネ ケース コルナ コーポ サイクル サンチーム シリング センチ セント ダース デシ ドル トン ナノ ノット ハイツ"⟩,
  ⟨0x332B, 0x3339, 1, "パーセント パーツ バーレル ピアストル ピクル ピコ ビル ファラッド フィート ブッシェル フラン ヘクタール ペソ ペニヒ ヘルツ"⟩,
  ⟨0x333A, 0x3349, 1, "ペンス ページ ベータ ポイント ボルト ホン ポンド ホール ホーン マイクロ マイル マッハ マルク マンション ミクロン ミリ"⟩,
  ⟨0x334A, 0x335A, 1, "ミリバール メガ メガトン メートル ヤード ヤール ユアン リットル リラ ルピー ルーブル レム レントゲン ワット 0点 1点 2点"⟩,
  ⟨0x335B, 0x336D, 1, "3点 4点 5点 6点 7点 8点 9点 10点 11点 12点 13点 14点 15点 16点 17点 18点 19点 20点 21点"⟩,
  ⟨0x336E, 0x3381, 1, "22点 23点 24点 hpa da au bar ov pc dm dm2 dm3 iu 平成 昭和 大正 明治 株式会社 pa na"⟩,
  ⟨0x3382, 0x3396, 1, "μa ma ka kb mb gb cal kcal pf nf μf μg mg kg hz khz mhz ghz thz μl ml"⟩,
  ⟨0x3397, 0x33AA, 1, "dl kl fm nm μm mm cm km mm2 cm2 m2 km2 mm3 cm3 m3 km3 m∕s m∕s2 pa kpa"⟩,
  ⟨0x33AB, 0x33BE, 1, "mpa gpa rad rad∕s rad∕s2 ps ns μs ms pv nv μv mv kv mv pw nw μw mw kw"⟩,
  ⟨0x33BF, 0x33C1, 1, "mw kω mω"⟩,
  ⟨0x33C3, 0x33C6, 1, "bq cc cd c∕kg"⟩,
  ⟨0x33C8, 0x33D7, 1, "db gy ha hp in kk km kt lm ln log lx mb mil mol ph"⟩,
  ⟨0x33D9, 0x33ED, 1, "ppm pr sr sv wb v∕m a∕m 1日 2日 3日 4日 5日 6日 7日 8日 9日 10日 11日 12日 13日 14日"⟩,
  ⟨0x33EE, 0x33FE, 1, "15日 16日 17日 18日 19日 20日 21日 22日 23日 24日 25日 26日 27日 28日 29日 30日 31日"⟩,
  ⟨0x33FF, 0x33FF, 1, "gal"⟩,
  ⟨0xA640, 0xA66C, 2, "ꙁ ꙃ ꙅ ꙇ ꙉ ꙋ ꙍ ꙏ ꙑ ꙓ ꙕ ꙗ ꙙ ꙛ ꙝ ꙟ ꙡ ꙣ ꙥ ꙧ ꙩ ꙫ ꙭ"⟩,
  ⟨0xA680, 0xA69C, 2, "ꚁ ꚃ ꚅ ꚇ ꚉ ꚋ ꚍ ꚏ ꚑ ꚓ ꚕ ꚗ ꚙ ꚛ ъ"⟩,
  ⟨0xA69D, 0xA69D, 1, "ь"⟩,
  ⟨0xA722, 0xA72E, 2, "ꜣ ꜥ ꜧ ꜩ ꜫ ꜭ ꜯ"⟩,
  ⟨0xA732, 0xA770, 2, "ꜳ ꜵ ꜷ ꜹ ꜻ ꜽ ꜿ ꝁ ꝃ ꝅ ꝇ ꝉ ꝋ ꝍ ꝏ ꝑ ꝓ ꝕ ꝗ ꝙ ꝛ ꝝ ꝟ ꝡ ꝣ ꝥ ꝧ ꝩ ꝫ ꝭ ꝯ ꝯ"⟩,
  ⟨0xA779, 0xA77D, 2, "ꝺ ꝼ ᵹ"⟩,
  ⟨0xA77E, 0xA786, 2, "ꝿ ꞁ ꞃ ꞅ ꞇ"⟩,
  ⟨0xA78B, 0xA78D, 2, "ꞌ ɥ"⟩,
  ⟨0xA790, 0xA792, 2, "ꞑ ꞓ"⟩,
  ⟨0xA796, 0xA7AA, 2, "ꞗ ꞙ ꞛ ꞝ ꞟ ꞡ ꞣ ꞥ ꞧ ꞩ ɦ"⟩,
  ⟨0xA7AB, 0xA7AE, 1, "ɜ ɡ ɬ ɪ"⟩,
  ⟨0xA7B0, 0xA7B4, 1, "ʞ ʇ ʝ ꭓ ꞵ"⟩,
  ⟨0xA7B6, 0xA7C4, 2, "ꞷ ꞹ ꞻ ꞽ ꞿ ꟁ ꟃ ꞔ"⟩,
  ⟨0xA7C5, 0xA7C7, 1, "ʂ ᶎ ꟈ"⟩,
  ⟨0xA7C9, 0xA7CB, 2, "ꟊ ɤ"⟩,
  ⟨0xA7CC, 0xA7DC, 2, "ꟍ ꟏ ꟑ ꟓ ꟕ ꟗ ꟙ ꟛ ƛ"⟩,
  ⟨0xA7F1, 0xA7F5, 1, "s c f q ꟶ"⟩,
  ⟨0xA7F8, 0xA7F9, 1, "ħ œ"⟩,
  ⟨0xAB5C, 0xAB5F, 1, "ꜧ ꬷ ɫ ꭒ"⟩,
  ⟨0xAB69, 0xAB69, 1, "ʍ"⟩,
  ⟨0xAB70, 0xAB92, 1, "Ꭰ Ꭱ Ꭲ Ꭳ Ꭴ Ꭵ Ꭶ Ꭷ Ꭸ Ꭹ Ꭺ Ꭻ Ꭼ Ꭽ Ꭾ Ꭿ Ꮀ Ꮁ Ꮂ Ꮃ Ꮄ Ꮅ Ꮆ Ꮇ Ꮈ Ꮉ Ꮊ Ꮋ Ꮌ Ꮍ Ꮎ Ꮏ Ꮐ Ꮑ Ꮒ"⟩,
  ⟨0xAB93, 0xABB5, 1, "Ꮓ Ꮔ Ꮕ Ꮖ Ꮗ Ꮘ Ꮙ Ꮚ Ꮛ Ꮜ Ꮝ Ꮞ Ꮟ Ꮠ Ꮡ Ꮢ Ꮣ Ꮤ Ꮥ Ꮦ Ꮧ Ꮨ Ꮩ Ꮪ Ꮫ Ꮬ Ꮭ Ꮮ Ꮯ Ꮰ Ꮱ Ꮲ Ꮳ Ꮴ Ꮵ"⟩,
  ⟨0xABB6, 0xABBF, 1, "Ꮶ Ꮷ Ꮸ Ꮹ Ꮺ Ꮻ Ꮼ Ꮽ Ꮾ Ꮿ"⟩,
  ⟨0xF900, 0xF922, 1, "豈 更 車 賈 滑 串 句 龜 龜 契 金 喇 奈 懶 癩 羅 蘿 螺 裸 邏 樂 洛 烙 珞 落 酪 駱 亂 卵 欄 爛 蘭 鸞 嵐 濫"⟩,
  ⟨0xF923, 0xF945, 1, "藍 襤 拉 臘 蠟 廊 朗 浪 狼 郎 來 冷 勞 擄 櫓 爐 盧 老 蘆 虜 路 露 魯 鷺 碌 祿 綠 菉 錄 鹿 論 壟 弄 籠 聾"⟩,
  ⟨0xF946, 0xF968, 1, "牢 磊 賂 雷 壘 屢 樓 淚 漏 累 縷 陋 勒 肋 凜 凌 稜 綾 菱 陵 讀 拏 樂 諾 丹 寧 怒 率 異 北 磻 便 復 不 泌"⟩,
  ⟨0xF969, 0xF98B, 1, "數 索 參 塞 省 葉 說 殺 辰 沈 拾 若 掠 略 亮 兩 凉 梁 糧 良 諒 量 勵 呂 女 廬 旅 濾 礪 閭 驪 麗 黎 力 曆"⟩,
  ⟨0xF98C, 0xF9AE, 1, "歷 轢 年 憐 戀 撚 漣 煉 璉 秊 練 聯 輦 蓮 連 鍊 列 劣 咽 烈 裂 說 廉 念 捻 殮 簾 獵 令 囹 寧 嶺 怜 玲 瑩"⟩,
  ⟨0xF9AF, 0xF9D1, 1, "羚 聆 鈴 零 靈 領 例 禮 醴 隸 惡 了 僚 寮 尿 料 樂 燎 療 蓼 遼 龍 暈 阮 劉 杻 柳 流 溜 琉 留 硫 紐 類 六"⟩,
  ⟨0xF9D2, 0xF9F4, 1, "戮 陸 倫 崙 淪 輪 律 慄 栗 率 隆 利 吏 履 易 李 梨 泥 理 痢 罹 裏 裡 里 離 匿 溺 吝 燐 璘 藺 隣 鱗 麟 林"⟩,
  ⟨0xF9F5, 0xFA0D, 1, "淋 臨 立 笠 粒 狀 炙 識 什 茶 刺 切 度 拓 糖 宅 洞 暴 輻 行 降 見 廓 兀 嗀"⟩,
  ⟨0xFA10, 0xFA12, 2, "塚 晴"⟩,
  ⟨0xFA15, 0xFA1E, 1, "凞 猪 益 礼 神 祥 福 靖 精 羽"⟩,
  ⟨0xFA20, 0xFA22, 2, "蘒 諸"⟩,
  ⟨0xFA25, 0xFA26, 1, "逸 都"⟩,
  ⟨0xFA2A, 0xFA4C, 1, "飯 飼 館 鶴 郞 隷 侮 僧 免 勉 勤 卑 喝 嘆 器 塀 墨 層 屮 悔 慨 憎 懲 敏 既 暑 梅 海 渚 漢 煮 爫 琢 碑 社"⟩,
  ⟨0xFA4D, 0xFA6D, 1, "祉 祈 祐 祖 祝 禍 禎 穀 突 節 練 縉 繁 署 者 臭 艹 艹 著 褐 視 謁 謹 賓 贈 辶 逸 難 響 頻 恵 𤋮 舘"⟩,
  ⟨0xFA70, 0xFA92, 1, "並 况 全 侀 充 冀 勇 勺 喝 啕 喙 嗢 塚 墳 奄 奔 婢 嬨 廒 廙 彩 徭 惘 慎 愈 憎 慠 懲 戴 揄 搜 摒 敖 晴 朗"⟩,
  ⟨0xFA93, 0xFAB5, 1, "望 杖 歹 殺 流 滛 滋 漢 瀞 煮 瞧 爵 犯 猪 瑱 甆 画 瘝 瘟 益 盛 直 睊 着 磌 窱 節 类 絛 練 缾 者 荒 華 蝹"⟩,
  ⟨0xFAB6, 0xFAD8, 1, "襁 覆 視 調 諸 請 謁 諾 諭 謹 變 贈 輸 遲 醙 鉶 陼 難 靖 韛 響 頋 頻 鬒 龜 𢡊 𢡄 𣏕 㮝 䀘 䀹 𥉉 𥳐 𧻓 齃"⟩,
  ⟨0xFAD9, 0xFAD9, 1, "龎"⟩,
  ⟨0xFB00, 0xFB06, 1, "ff fi fl ffi ffl st st"⟩,
  ⟨0xFB13, 0xFB17, 1, "մն մե մի վն մխ"⟩,
  ⟨0xFB1D, 0xFB1F, 2, "יִ ײַ"⟩,
  ⟨0xFB20, 0xFB36, 1, "ע א ד ה כ ל ם ר ת + שׁ שׂ שּׁ שּׂ אַ אָ אּ בּ גּ דּ הּ וּ זּ"⟩,
  ⟨0xFB38, 0xFB3C, 1, "טּ יּ ךּ כּ לּ"⟩,
  ⟨0xFB3E, 0xFB40, 2, "מּ נּ"⟩,
  ⟨0xFB41, 0xFB43, 2, "סּ ףּ"⟩,
  ⟨0xFB44, 0xFB46, 2, "פּ צּ"⟩,
  ⟨0xFB47, 0xFB65, 1, "קּ רּ שּ תּ וֹ בֿ כֿ פֿ אל ٱ ٱ ٻ ٻ ٻ ٻ پ پ پ پ ڀ ڀ ڀ ڀ ٺ ٺ ٺ ٺ ٿ ٿ ٿ ٿ"⟩,
  ⟨0xFB66, 0xFB88, 1, "ٹ ٹ ٹ ٹ ڤ ڤ ڤ ڤ ڦ ڦ ڦ ڦ ڄ ڄ ڄ ڄ ڃ ڃ ڃ ڃ چ چ چ چ ڇ ڇ ڇ ڇ ڍ ڍ ڌ ڌ ڎ ڎ ڈ"⟩,
  ⟨0xFB89, 0xFBAB, 1, "ڈ ژ ژ ڑ ڑ ک ک ک ک گ گ گ گ ڳ ڳ ڳ ڳ ڱ ڱ ڱ ڱ ں ں ڻ ڻ ڻ ڻ ۀ ۀ ہ ہ ہ ہ ھ ھ"⟩,
  ⟨0xFBAC, 0xFBB1, 1, "ھ ھ ے ے ۓ ۓ"⟩,
  ⟨0xFBD3, 0xFBF1, 1, "ڭ ڭ ڭ ڭ ۇ ۇ ۆ ۆ ۈ ۈ ۇٴ ۋ ۋ ۅ ۅ ۉ ۉ ې ې ې ې ى ى ئا ئا ئە ئە ئو ئو ئۇ ئۇ"⟩,
  ⟨0xFBF2, 0xFC0A, 1, "ئۆ ئۆ ئۈ ئۈ ئې ئې ئې ئى ئى ئى ی ی ی ی ئج ئح ئم ئى ئي بج بح بخ بم بى بي"⟩,
  ⟨0xFC0B, 0xFC21, 1, "تج تح تخ تم تى تي ثج ثم ثى ثي جح جم حج حم خج خح خم سج سح سخ سم صح صم"⟩,
  ⟨0xFC22, 0xFC38, 1, "ضج ضح ضخ ضم طح طم ظم عج عم غج غم فج فح فخ فم فى في قح قم قى قي كا كج"⟩,
  ⟨0xFC39, 0xFC4F, 1, "كح كخ كل كم كى كي لج لح لخ لم لى لي مج مح مخ مم مى مي نج نح نخ نم نى"⟩,
  ⟨0xFC50, 0xFC5D, 1, "ني هج هم هى هي يج يح يخ يم يى يي ذٰ رٰ ىٰ"⟩,
  ⟨0xFC64, 0xFC7A, 1, "ئر ئز ئم ئن ئى ئي بر بز بم بن بى بي تر تز تم تن تى تي ثر ثز ثم ثن ثى"⟩,
  ⟨0xFC7B, 0xFC91, 1, "ثي فى في قى قي كا كل كم كى كي لم لى لي ما مم نر نز نم نن نى ني ىٰ ير"⟩,
  ⟨0xFC92, 0xFCA8, 1, "يز يم ين يى يي ئج ئح ئخ ئم ئه بج بح بخ بم به تج تح تخ تم ته ثم جح جم"⟩,
  ⟨0xFCA9, 0xFCBF, 1, "حج حم خج خم سج سح سخ سم صح صخ صم ضج ضح ضخ ضم طح ظم عج عم غج غم فج فح"⟩,
  ⟨0xFCC0, 0xFCD6, 1, "فخ فم قح قم كج كح كخ كل كم لج لح لخ لم له مج مح مخ مم نج نح نخ نم نه"⟩,
  ⟨0xFCD7, 0xFCED, 1, "هج هم هٰ يج يح يخ يم يه ئم ئه بم به تم ته ثم ثه سم سه شم شه كل كم لم"⟩,
  ⟨0xFCEE, 0xFD03, 1, "نم نه يم يه ـَّ ـُّ ـِّ طى طي عى عي غى غي سى سي شى شي حى حي جى جي خى"⟩,
  ⟨0xFD04, 0xFD1A, 1, "خي صى صي ضى ضي شج شح شخ شم شر سر صر ضر طى طي عى عي غى غي سى سي شى شي"⟩,
  ⟨0xFD1B, 0xFD31, 1, "حى حي جى جي خى خي صى صي ضى ضي شج شح شخ شم شر سر صر ضر شج شح شخ شم سه"⟩,
  ⟨0xFD32, 0xFD3D, 1, "شه طم سج سح سخ شج شح شخ طم ظم اً اً"⟩,
  ⟨0xFD50, 0xFD60, 1, "تجم تحج تحج تحم تخم تمج تمح تمخ جمح جمح حمي حمى سحج سجح سجى سمح سمح"⟩,
  ⟨0xFD61, 0xFD71, 1, "سمج سمم سمم صحح صحح صمم شحم شحم شجي شمخ شمخ شمم شمم ضحى ضخم ضخم طمح"⟩,
  ⟨0xFD72, 0xFD82, 1, "طمح طمم طمي عجم عمم عمم عمى غمم غمي غمى فخم فخم قمح قمم لحم لحي لحى"⟩,
  ⟨0xFD83, 0xFD8F, 1, "لجج لجج لخم لخم لمح لمح محج محم محي مجح مجم مخج مخم"⟩,
  ⟨0xFD92, 0xFDA2, 1, "مجخ همج همم نحم نحى نجم نجم نجى نمي نمى يمم يمم بخي تجي تجى تخي تخى"⟩,
  ⟨0xFDA3, 0xFDB3, 1, "تمي تمى جمي جحى جمى سخى صحي شحي ضحي لجي لمي يحي يجي يمي ممي قمي نحي"⟩,
  ⟨0xFDB4, 0xFDC4, 1, "قمح لحم عمي كمي نجح مخي لجم كمم لجم نجح جحي حجي مجي فمي بحي كمم عجم"⟩,
  ⟨0xFDC5, 0xFDC7, 1, "صمم سخي نجي"⟩,
  ⟨0xFDF0, 0xFDF9, 1, "صلے قلے الله اكبر محمد صلعم رسول عليه وسلم صلى"⟩,
  ⟨0xFDFC, 0xFDFC, 1, "ریال"⟩,
  ⟨0xFE10, 0xFE11, 1, ", 、"⟩,
  ⟨0xFE14, 0xFE15, 1, "; !"⟩,
  ⟨0xFE17, 0xFE18, 1, "〖 〗"⟩,
  ⟨0xFE31, 0xFE44, 1, "— – _ _ ( ) \x7b \x7d 〔 〕 【 】 《 》 〈 〉 「 」 『 』"⟩,
  ⟨0xFE4D, 0xFE51, 1, "_ _ _ , 、"⟩,
  ⟨0xFE54, 0xFE54, 1, ";"⟩,
  ⟨0xFE57, 0xFE5E, 1, "! — ( ) \x7b \x7d 〔 〕"⟩,
  ⟨0xFE60, 0xFE63, 1, "& * + -"⟩,
  ⟨0xFE66, 0xFE66, 1, "="⟩,
  ⟨0xFE69, 0xFE69, 1, "$"⟩,
  ⟨0xFE71, 0xFE71, 1, "ـً"⟩,
  ⟨0xFE77, 0xFE7F, 2, "ـَ ـُ ـِ ـّ ـْ"⟩,
  ⟨0xFE80, 0xFEA2, 1, "ء آ آ أ أ ؤ ؤ إ إ ئ ئ ئ ئ ا ا ب ب ب ب ة ة ت ت ت ت ث ث ث ث ج ج ج ج ح ح"⟩,
  ⟨0xFEA3, 0xFEC5, 1, "ح ح خ خ خ خ د د ذ ذ ر ر ز ز س س س س ش ش ش ش ص ص ص ص ض ض ض ض ط ط ط ط ظ"⟩,
  ⟨0xFEC6, 0xFEE8, 1, "ظ ظ ظ ع ع ع ع غ غ غ غ ف ف ف ف ق ق ق ق ك ك ك ك ل ل ل ل م م م م ن ن ن ن"⟩,
  ⟨0xFEE9, 0xFEFC, 1, "ه ه ه ه و و ى ى ي ي ي ي لآ لآ لأ لأ لإ لإ لا لا"⟩,
  ⟨0xFF01, 0xFF02, 1, "! \""⟩,
  ⟨0xFF04, 0xFF06, 2, "$ &"⟩,
  ⟨0xFF07, 0xFF0E, 1, "' ( ) * + , - ."⟩,
  ⟨0xFF10, 0xFF19, 1, "0 1 2 3 4 5 6 7 8 9"⟩,
  ⟨0xFF1B, 0xFF1D, 2, "; ="⟩,
  ⟨0xFF21, 0xFF3A, 1, "a b c d e f g h i j k l m n o p q r s t u v w x y z"⟩,
  ⟨0xFF3F, 0xFF5B, 1, "_ \x60 a b c d e f g h i j k l m n o p q r s t u v w x y z \x7b"⟩,
  ⟨0xFF5D, 0xFF7E, 1, "\x7d ~ ⦅ ⦆ . 「 」 、 ・ ヲ ァ ィ ゥ ェ ォ ャ ュ ョ ッ ー ア イ ウ エ オ カ キ ク ケ コ サ シ ス セ"⟩,
  ⟨0xFF7F, 0xFF9F, 1, "ソ タ チ ツ テ ト ナ ニ ヌ ネ ノ ハ ヒ フ ヘ ホ マ ミ ム メ モ ヤ ユ ヨ ラ リ ル レ ロ ワ ン ゙ ゚"⟩,
  ⟨0xFFA1, 0xFFBE, 1, "ᄀ ᄁ ᆪ ᄂ ᆬ ᆭ ᄃ ᄄ ᄅ ᆰ ᆱ ᆲ ᆳ ᆴ ᆵ ᄚ ᄆ ᄇ ᄈ ᄡ ᄉ ᄊ ᄋ ᄌ ᄍ ᄎ ᄏ ᄐ ᄑ ᄒ"⟩,
  ⟨0xFFC2, 0xFFC7, 1, "ᅡ ᅢ ᅣ ᅤ ᅥ ᅦ"⟩,
  ⟨0xFFCA, 0xFFCF, 1, "ᅧ ᅨ ᅩ ᅪ ᅫ ᅬ"⟩,
  ⟨0xFFD2, 0xFFD7, 1, "ᅭ ᅮ ᅯ ᅰ ᅱ ᅲ"⟩,
  ⟨0xFFDA, 0xFFDC, 1, "ᅳ ᅴ ᅵ"⟩,
  ⟨0xFFE0, 0xFFE2, 1, "¢ £ ¬"⟩,
  ⟨0xFFE4, 0xFFE6, 1, "¦ ¥ ₩"⟩,
  ⟨0xFFE8, 0xFFEE, 1, "│ ← ↑ → ↓ ■ ○"⟩,
  ⟨0x10400, 0x10421, 1, "𐐨 𐐩 𐐪 𐐫 𐐬 𐐭 𐐮 𐐯 𐐰 𐐱 𐐲 𐐳 𐐴 𐐵 𐐶 𐐷 𐐸 𐐹 𐐺 𐐻 𐐼 𐐽 𐐾 𐐿 𐑀 𐑁 𐑂 𐑃 𐑄 𐑅 𐑆 𐑇 𐑈 𐑉"⟩,
  ⟨0x10422, 0x10427, 1, "𐑊 𐑋 𐑌 𐑍 𐑎 𐑏"⟩,
  ⟨0x104B0, 0x104D1, 1, "𐓘 𐓙 𐓚 𐓛 𐓜 𐓝 𐓞 𐓟 𐓠 𐓡 𐓢 𐓣 𐓤 𐓥 𐓦 𐓧 𐓨 𐓩 𐓪 𐓫 𐓬 𐓭 𐓮 𐓯 𐓰 𐓱 𐓲 𐓳 𐓴 𐓵 𐓶 𐓷 𐓸 𐓹"⟩,
  ⟨0x104D2, 0x104D3, 1, "𐓺 𐓻"⟩,
  ⟨0x10570, 0x1057A, 1, "𐖗 𐖘 𐖙 𐖚 𐖛 𐖜 𐖝 𐖞 𐖟 𐖠 𐖡"⟩,
  ⟨0x1057C, 0x1058A, 1, "𐖣 𐖤 𐖥 𐖦 𐖧 𐖨 𐖩 𐖪 𐖫 𐖬 𐖭 𐖮 𐖯 𐖰 𐖱"⟩,
  ⟨0x1058C, 0x10592, 1, "𐖳 𐖴 𐖵 𐖶 𐖷 𐖸 𐖹"⟩,
  ⟨0x10594, 0x10595, 1, "𐖻 𐖼"⟩,
  ⟨0x10781, 0x10785, 1, "ː ˑ æ ʙ ɓ"⟩,
  ⟨0x10787, 0x107A8, 1, "ʣ ꭦ ʥ ʤ ɖ ɗ ᶑ ɘ ɞ ʩ ɤ ɢ ɠ ʛ ħ ʜ ɧ ʄ ʪ ʫ ɬ 𝼄 ꞎ ɮ 𝼅 ʎ 𝼆 ø ɶ ɷ q ɺ 𝼈 ɽ"⟩,
  ⟨0x107A9, 0x107B0, 1, "ɾ ʀ ʨ ʦ ꭧ ʧ ʈ ⱱ"⟩,
  ⟨0x107B2, 0x107BA, 1, "ʏ ʡ ʢ ʘ ǀ ǁ ǂ 𝼊 𝼞"⟩,
  ⟨0x10C80, 0x10CA1, 1, "𐳀 𐳁 𐳂 𐳃 𐳄 𐳅 𐳆 𐳇 𐳈 𐳉 𐳊 𐳋 𐳌 𐳍 𐳎 𐳏 𐳐 𐳑 𐳒 𐳓 𐳔 𐳕 𐳖 𐳗 𐳘 𐳙 𐳚 𐳛 𐳜 𐳝 𐳞 𐳟 𐳠 𐳡"⟩,
  ⟨0x10CA2, 0x10CB2, 1, "𐳢 𐳣 𐳤 𐳥 𐳦 𐳧 𐳨 𐳩 𐳪 𐳫 𐳬 𐳭 𐳮 𐳯 𐳰 𐳱 𐳲"⟩,
  ⟨0x10D50, 0x10D65, 1, "𐵰 𐵱 𐵲 𐵳 𐵴 𐵵 𐵶 𐵷 𐵸 𐵹 𐵺 𐵻 𐵼 𐵽 𐵾 𐵿 𐶀 𐶁 𐶂 𐶃 𐶄 𐶅"⟩,
  ⟨0x118A0, 0x118BF, 1, "𑣀 𑣁 𑣂 𑣃 𑣄 𑣅 𑣆 𑣇 𑣈 𑣉 𑣊 𑣋 𑣌 𑣍 𑣎 𑣏 𑣐 𑣑 𑣒 𑣓 𑣔 𑣕 𑣖 𑣗 𑣘 𑣙 𑣚 𑣛 𑣜 𑣝 𑣞 𑣟"⟩,
  ⟨0x16E40, 0x16E5F, 1, "𖹠 𖹡 𖹢 𖹣 𖹤 𖹥 𖹦 𖹧 𖹨 𖹩 𖹪 𖹫 𖹬 𖹭 𖹮 𖹯 𖹰 𖹱 𖹲 𖹳 𖹴 𖹵 𖹶 𖹷 𖹸 𖹹 𖹺 𖹻 𖹼 𖹽 𖹾 𖹿"⟩,
  ⟨0x16EA0, 0x16EB8, 1, "𖺻 𖺼 𖺽 𖺾 𖺿 𖻀 𖻁 𖻂 𖻃 𖻄 𖻅 𖻆 𖻇 𖻈 𖻉 𖻊 𖻋 𖻌 𖻍 𖻎 𖻏 𖻐 𖻑 𖻒 𖻓"⟩,
  ⟨0x1CCD6, 0x1CCF7, 1, "a b c d e f g h i j k l m n o p q r s t u v w x y z 0 1 2 3 4 5 6 7"⟩,
  ⟨0x1CCF8, 0x1CCF9, 1, "8 9"⟩,
  ⟨0x1D15E, 0x1D164, 1, "𝅗𝅥 𝅘𝅥 𝅘𝅥𝅮 𝅘𝅥𝅯 𝅘𝅥𝅰 𝅘𝅥𝅱 𝅘𝅥𝅲"⟩,
  ⟨0x1D1BB, 0x1D1C0, 1, "𝆹𝅥 𝆺𝅥 𝆹𝅥𝅮 𝆺𝅥𝅮 𝆹𝅥𝅯 𝆺𝅥𝅯"⟩,
  ⟨0x1D400, 0x1D421, 1, "a b c d e f g h i j k l m n o p q r s t u v w x y z a b c d e f g h"⟩,
  ⟨0x1D422, 0x1D443, 1, "i j k l m n o p q r s t u v w x y z a b c d e f g h i j k l m n o p"⟩,
  ⟨0x1D444, 0x1D454, 1, "q r s t u v w x y z a b c d e f g"⟩,
  ⟨0x1D456, 0x1D477, 1, "i j k l m n o p q r s t u v w x y z a b c d e f g h i j k l m n o p"⟩,
  ⟨0x1D478, 0x1D499, 1, "q r s t u v w x y z a b c d e f g h i j k l m n o p q r s t u v w x"⟩,
  ⟨0x1D49A, 0x1D49C, 1, "y z a"⟩,
  ⟨0x1D49E, 0x1D49F, 1, "c d"⟩,
  ⟨0x1D4A2, 0x1D4A2, 1, "g"⟩,
  ⟨0x1D4A5, 0x1D4A6, 1, "j k"⟩,
  ⟨0x1D4A9, 0x1D4AC, 1, "n o p q"⟩,
  ⟨0x1D4AE, 0x1D4B9, 1, "s t u v w x y z a b c d"⟩,
  ⟨0x1D4BB, 0x1D4BD, 2, "f h"⟩,
  ⟨0x1D4BE, 0x1D4C3, 1, "i j k l m n"⟩,
  ⟨0x1D4C5, 0x1D4E6, 1, "p q r s t u v w x y z a b c d e f g h i j k l m n o p q r s t u v w"⟩,
  ⟨0x1D4E7, 0x1D505, 1, "x y z a b c d e f g h i j k l m n o p q r s t u v w x y z a b"⟩,
  ⟨0x1D507, 0x1D50A, 1, "d e f g"⟩,
  ⟨0x1D50D, 0x1D514, 1, "j k l m n o p q"⟩,
  ⟨0x1D516, 0x1D51C, 1, "s t u v w x y"⟩,
  ⟨0x1D51E, 0x1D539, 1, "a b c d e f g h i j k l m n o p q r s t u v w x y z a b"⟩,
  ⟨0x1D53B, 0x1D53E, 1, "d e f g"⟩,
  ⟨0x1D540, 0x1D544, 1, "i j k l m"⟩,
  ⟨0x1D546, 0x1D546, 1, "o"⟩,
  ⟨0x1D54A, 0x1D550, 1, "s t u v w x y"⟩,
  ⟨0x1D552, 0x1D573, 1, "a b c d e f g h i j k l m n o p q r s t u v w x y z a b c d e f g h"⟩,
  ⟨0x1D574, 0x1D595, 1, "i j k l m n o p q r s t u v w x y z a b c d e f g h i j k l m n o p"⟩,
  ⟨0x1D596, 0x1D5B7, 1, "q r s t u v w x y z a b c d e f g h i j k l m n o p q r s t u v w x"⟩,
  ⟨0x1D5B8, 0x1D5D9, 1, "y z a b c d e f g h i j k l m n o p q r s t u v w x y z a b c d e f"⟩,
  ⟨0x1D5DA, 0x1D5FB, 1, "g h i j k l m n o p q r s t u v w x y z a b c d e f g h i j k l m n"⟩,
  ⟨0x1D5FC, 0x1D61D, 1, "o p q r s t u v w x y z a b c d e f g h i j k l m n o p q r s t u v"⟩,
  ⟨0x1D61E, 0x1D63F, 1, "w x y z a b c d e f g h i j k l m n o p q r s t u v w x y z a b c d"⟩,
  ⟨0x1D640, 0x1D661, 1, "e f g h i j k l m n o p q r s t u v w x y z a b c d e f g h i j k l"⟩,
  ⟨0x1D662, 0x1D683, 1, "m n o p q r s t u v w x y z a b c d e f g h i j k l m n o p q r s t"⟩,
  ⟨0x1D684, 0x1D6A5, 1, "u v w x y z a b c d e f g h i j k l m n o p q r s t u v w x y z ı ȷ"⟩,
  ⟨0x1D6A8, 0x1D6C9, 1, "α β γ δ ε ζ η θ ι κ λ μ ν ξ ο π ρ θ σ τ υ φ χ ψ ω ∇ α β γ δ ε ζ η θ"⟩,
  ⟨0x1D6CA, 0x1D6EB, 1, "ι κ λ μ ν ξ ο π ρ σ σ τ υ φ χ ψ ω ∂ ε θ κ φ ρ π α β γ δ ε ζ η θ ι κ"⟩,
  ⟨0x1D6EC, 0x1D70D, 1, "λ μ ν ξ ο π ρ θ σ τ υ φ χ ψ ω ∇ α β γ δ ε ζ η θ ι κ λ μ ν ξ ο π ρ σ"⟩,
  ⟨0x1D70E, 0x1D72F, 1, "σ τ υ φ χ ψ ω ∂ ε θ κ φ ρ π α β γ δ ε ζ η θ ι κ λ μ ν ξ ο π ρ θ σ τ"⟩,
  ⟨0x1D730, 0x1D751, 1, "υ φ χ ψ ω ∇ α β γ δ ε ζ η θ ι κ λ μ ν ξ ο π ρ σ σ τ υ φ χ ψ ω ∂ ε θ"⟩,
  ⟨0x1D752, 0x1D773, 1, "κ φ ρ π α β γ δ ε ζ η θ ι κ λ μ ν ξ ο π ρ θ σ τ υ φ χ ψ ω ∇ α β γ δ"⟩,
  ⟨0x1D774, 0x1D795, 1, "ε ζ η θ ι κ λ μ ν ξ ο π ρ σ σ τ υ φ χ ψ ω ∂ ε θ κ φ ρ π α β γ δ ε ζ"⟩,
  ⟨0x1D796, 0x1D7B7, 1, "η θ ι κ λ μ ν ξ ο π ρ θ σ τ υ φ χ ψ ω ∇ α β γ δ ε ζ η θ ι κ λ μ ν ξ"⟩,
  ⟨0x1D7B8, 0x1D7CB, 1, "ο π ρ σ σ τ υ φ χ ψ ω ∂ ε θ κ φ ρ π ϝ ϝ"⟩,
  ⟨0x1D7CE, 0x1D7EF, 1, "0 1 2 3 4 5 6 7 8 9 0 1 2 3 4 5 6 7 8 9 0 1 2 3 4 5 6 7 8 9 0 1 2 3"⟩,
  ⟨0x1D7F0, 0x1D7FF, 1, "4 5 6 7 8 9 0 1 2 3 4 5 6 7 8 9"⟩,
  ⟨0x1E030, 0x1E051, 1, "а б в г д е ж з и к л м о п р с т у ф х ц ч ш ы э ю ꚉ ә і ј ө ү ӏ а"⟩,
  ⟨0x1E052, 0x1E06D, 1, "б в г д е ж з и к л о п с у ф х ц ч ш ъ ы ґ і ѕ џ ҫ ꙑ ұ"⟩,
  ⟨0x1E900, 0x1E921, 1, "𞤢 𞤣 𞤤 𞤥 𞤦 𞤧 𞤨 𞤩 𞤪 𞤫 𞤬 𞤭 𞤮 𞤯 𞤰 𞤱 𞤲 𞤳 𞤴 𞤵 𞤶 𞤷 𞤸 𞤹 𞤺 𞤻 𞤼 𞤽 𞤾 𞤿 𞥀 𞥁 𞥂 𞥃"⟩,
  ⟨0x1EE00, 0x1EE03, 1, "ا ب ج د"⟩,
  ⟨0x1EE05, 0x1EE1F, 1, "و ز ح ط ي ك ل م ن س ع ف ص ق ر ش ت ث خ ذ ض ظ غ ٮ ں ڡ ٯ"⟩,
  ⟨0x1EE21, 0x1EE22, 1, "ب ج"⟩,
  ⟨0x1EE24, 0x1EE24, 1, "ه"⟩,
  ⟨0x1EE27, 0x1EE29, 2, "ح ي"⟩,
  ⟨0x1EE2A, 0x1EE32, 1, "ك ل م ن س ع ف ص ق"⟩,
  ⟨0x1EE34, 0x1EE37, 1, "ش ت ث خ"⟩,
  ⟨0x1EE39, 0x1EE3B, 2, "ض غ"⟩,
  ⟨0x1EE42, 0x1EE42, 1, "ج"⟩,
  ⟨0x1EE47, 0x1EE4D, 2, "ح ي ل ن"⟩,
  ⟨0x1EE4E, 0x1EE4F, 1, "س ع"⟩,
  ⟨0x1EE51, 0x1EE52, 1, "ص ق"⟩,
  ⟨0x1EE54, 0x1EE54, 1, "ش"⟩,
  ⟨0x1EE57, 0x1EE61, 2, "خ ض غ ں ٯ ب"⟩,
  ⟨0x1EE62, 0x1EE64, 2, "ج ه"⟩,
  ⟨0x1EE67, 0x1EE6A, 1, "ح ط ي ك"⟩,
  ⟨0x1EE6C, 0x1EE72, 1, "م ن س ع ف ص ق"⟩,
  ⟨0x1EE74, 0x1EE77, 1, "ش ت ث خ"⟩,
  ⟨0x1EE79, 0x1EE7C, 1, "ض ظ غ ٮ"⟩,
  ⟨0x1EE7E, 0x1EE80, 2, "ڡ ا"⟩,
  ⟨0x1EE81, 0x1EE89, 1, "ب ج د ه و ز ح ط ي"⟩,
  ⟨0x1EE8B, 0x1EE9B, 1, "ل م ن س ع ف ص ق ر ش ت ث خ ذ ض ظ غ"⟩,
  ⟨0x1EEA1, 0x1EEA3, 1, "ب ج د"⟩,
  ⟨0x1EEA5, 0x1EEA9, 1, "و ز ح ط ي"⟩,
  ⟨0x1EEAB, 0x1EEBB, 1, "ل م ن س ع ف ص ق ر ش ت ث خ ذ ض ظ غ"⟩,
  ⟨0x1F101, 0x1F10A, 1, "0, 1, 2, 3, 4, 5, 6, 7, 8, 9,"⟩,
  ⟨0x1F110, 0x1F120, 1, "(a) (b) (c) (d) (e) (f) (g) (h) (i) (j) (k) (l) (m) (n) (o) (p) (q)"⟩,
  ⟨0x1F121, 0x1F12E, 1, "(r) (s) (t) (u) (v) (w) (x) (y) (z) 〔s〕 c r cd wz"⟩,
  ⟨0x1F130, 0x1F14E, 1, "a b c d e f g h i j k l m n o p q r s t u v w x y z hv mv sd ss ppv"⟩,
  ⟨0x1F14F, 0x1F14F, 1, "wc"⟩,
  ⟨0x1F16A, 0x1F16C, 1, "mc md mr"⟩,
  ⟨0x1F190, 0x1F190, 1, "dj"⟩,
  ⟨0x1F200, 0x1F202, 1, "ほか ココ サ"⟩,
  ⟨0x1F210, 0x1F231, 1, "手 字 双 デ 二 多 解 天 交 映 無 料 前 後 再 新 初 終 生 販 声 吹 演 投 捕 一 三 遊 左 中 右 指 走 打"⟩,
  ⟨0x1F232, 0x1F23B, 1, "禁 空 合 満 有 月 申 割 営 配"⟩,
  ⟨0x1F240, 0x1F248, 1, "〔本〕 〔三〕 〔二〕 〔安〕 〔点〕 〔打〕 〔盗〕 〔勝〕 〔敗〕"⟩,
  ⟨0x1F250, 0x1F251, 1, "得 可"⟩,
  ⟨0x1FBF0, 0x1FBF9, 1, "0 1 2 3 4 5 6 7 8 9"⟩,
  ⟨0x2F800, 0x2F821, 1, "丽 丸 乁 𠄢 你 侮 侻 倂 偺 備 僧 像 㒞 𠘺 免 兔 兤 具 𠔜 㒹 內 再 𠕋 冗 冤 仌 冬 况 𩇟 凵 刃 㓟 刻 剆"⟩,
  ⟨0x2F822, 0x2F843, 1, "割 剷 㔕 勇 勉 勤 勺 包 匆 北 卉 卑 博 即 卽 卿 卿 卿 𠨬 灰 及 叟 𠭣 叫 叱 吆 咞 吸 呈 周 咢 哶 唐 啓"⟩,
  ⟨0x2F844, 0x2F865, 1, "啣 善 善 喙 喫 喳 嗂 圖 嘆 圗 噑 噴 切 壮 城 埴 堍 型 堲 報 墬 𡓤 売 壷 夆 多 夢 奢 𡚨 𡛪 姬 娛 娧 姘"⟩,
  ⟨0x2F866, 0x2F887, 1, "婦 㛮 㛼 嬈 嬾 嬾 𡧈 寃 寘 寧 寳 𡬘 寿 将 当 尢 㞁 屠 屮 峀 岍 𡷤 嵃 𡷦 嵮 嵫 嵼 巡 巢 㠯 巽 帨 帽 幩"⟩,
  ⟨0x2F888, 0x2F8A9, 1, "㡢 𢆃 㡼 庰 庳 庶 廊 𪎒 廾 𢌱 𢌱 舁 弢 弢 㣇 𣊸 𦇚 形 彫 㣣 徚 忍 志 忹 悁 㤺 㤜 悔 𢛔 惇 慈 慌 慎 慌"⟩,
  ⟨0x2F8AA, 0x2F8CB, 1, "慺 憎 憲 憤 憯 懞 懲 懶 成 戛 扝 抱 拔 捐 𢬌 挽 拼 捨 掃 揤 𢯱 搢 揅 掩 㨮 摩 摾 撝 摷 㩬 敏 敬 𣀊 旣"⟩,
  ⟨0x2F8CC, 0x2F8ED, 1, "書 晉 㬙 暑 㬈 㫤 冒 冕 最 暜 肭 䏙 朗 望 朡 杞 杓 𣏃 㭉 柺 枅 桒 梅 𣑭 梎 栟 椔 㮝 楂 榣 槪 檨 𣚣 櫛"⟩,
  ⟨0x2F8EE, 0x2F90F, 1, "㰘 次 𣢧 歔 㱎 歲 殟 殺 殻 𣪍 𡴋 𣫺 汎 𣲼 沿 泍 汧 洖 派 海 流 浩 浸 涅 𣴞 洴 港 湮 㴳 滋 滇 𣻑 淹 潮"⟩,
  ⟨0x2F910, 0x2F931, 1, "𣽞 𣾎 濆 瀹 瀞 瀛 㶖 灊 災 灷 炭 𠔥 煅 𤉣 熜 𤎫 爨 爵 牐 𤘈 犀 犕 𤜵 𤠔 獺 王 㺬 玥 㺸 㺸 瑇 瑜 瑱 璅"⟩,
  ⟨0x2F932, 0x2F953, 1, "瓊 㼛 甤 𤰶 甾 𤲒 異 𢆟 瘐 𤾡 𤾸 𥁄 㿼 䀈 直 𥃳 𥃲 𥄙 𥄳 眞 真 真 睊 䀹 瞋 䁆 䂖 𥐝 硎 碌 磌 䃣 𥘦 祖"⟩,
  ⟨0x2F954, 0x2F975, 1, "𥚚 𥛅 福 秫 䄯 穀 穊 穏 𥥼 𥪧 𥪧 竮 䈂 𥮫 篆 築 䈧 𥲀 糒 䊠 糨 糣 紀 𥾆 絣 䌁 緇 縂 繅 䌴 𦈨 𦉇 䍙 𦋙"⟩,
  ⟨0x2F976, 0x2F997, 1, "罺 𦌾 羕 翺 者 𦓚 𦔣 聠 𦖨 聰 𣍟 䏕 育 脃 䐋 脾 媵 𦞧 𦞵 𣎓 𣎜 舁 舄 辞 䑫 芑 芋 芝 劳 花 芳 芽 苦 𦬼"⟩,
  ⟨0x2F998, 0x2F9B9, 1, "若 茝 荣 莭 茣 莽 菧 著 荓 菊 菌 菜 𦰶 𦵫 𦳕 䔫 蓱 蓳 蔖 𧏊 蕤 𦼬 䕝 䕡 𦾱 𧃒 䕫 虐 虜 虧 虩 蚩 蚈 蜎"⟩,
  ⟨0x2F9BA, 0x2F9DB, 1, "蛢 蝹 蜨 蝫 螆 䗗 蟡 蠁 䗹 衠 衣 𧙧 裗 裞 䘵 裺 㒻 𧢮 𧥦 䚾 䛇 誠 諭 變 豕 𧲨 貫 賁 贛 起 𧼯 𠠄 跋 趼"⟩,
  ⟨0x2F9DC, 0x2F9FD, 1, "跰 𠣞 軔 輸 𨗒 𨗭 邔 郱 鄑 𨜮 鄛 鈸 鋗 鋘 鉼 鏹 鐕 𨯺 開 䦕 閷 𨵷 䧦 雃 嶲 霣 𩅅 𩈚 䩮 䩶 韠 𩐊 䪲 𩒖"⟩,
  ⟨0x2F9FE, 0x2FA1D, 1, "頋 頋 頩 𩖶 飢 䬳 餩 馧 駂 駾 䯎 𩬰 鬒 鱀 鳽 䳎 䳭 鵧 𪃎 䳸 𪄅 𪈎 𪊑 麻 䵖 黹 黾 鼅 鼏 鼖 鼻 𪘀"⟩]

/-- The plain form that a row gives. -/
def FormRow.form? (row : FormRow) (n : Nat) : Option (List Char) :=
  if row.first ≤ n && n ≤ row.last && (n - row.first) % row.step == 0 then
    (splitOn ' ' row.forms.toList)[(n - row.first) / row.step]?
  else none

/-- Characters that leave nothing behind. -/
def vanishing : Ranges := [
  (0xAD, 0xAD), (0x34F, 0x34F), (0x115F, 0x1160), (0x17B4, 0x17B5), (0x180B, 0x180F),
  (0x200B, 0x200B), (0x2060, 0x2064), (0x206A, 0x206F), (0x3164, 0x3164), (0xFE00, 0xFE0F),
  (0xFEFF, 0xFEFF), (0xFFA0, 0xFFA0), (0x1BCA0, 0x1BCA3), (0x1D173, 0x1D17A), (0xE0100, 0xE01EF)]

/-- Printed characters that no name may have: those whose plain form would have a character that
parts an address, stops that look like several, and stand-ins for characters that are missing. -/
def barred : Ranges := [
  (0xA8, 0xA8), (0xAF, 0xAF), (0xB4, 0xB4), (0xB8, 0xB8), (0x2D8, 0x2DD), (0x37A, 0x37A),
  (0x384, 0x385), (0x1FBD, 0x1FBD), (0x1FBF, 0x1FC1), (0x1FCD, 0x1FCF), (0x1FDD, 0x1FDF),
  (0x1FED, 0x1FEE), (0x1FFD, 0x1FFE), (0x2017, 0x2017), (0x2024, 0x2026), (0x203E, 0x203E),
  (0x2047, 0x2049), (0x2100, 0x2101), (0x2105, 0x2106), (0x2488, 0x249B), (0x2A74, 0x2A74),
  (0x2FF0, 0x2FFF), (0x309B, 0x309C), (0x31EF, 0x31EF), (0x33C2, 0x33C2), (0x33C7, 0x33C7),
  (0x33D8, 0x33D8), (0xFC5E, 0xFC63), (0xFDFA, 0xFDFB), (0xFE12, 0xFE13), (0xFE16, 0xFE16),
  (0xFE19, 0xFE19), (0xFE30, 0xFE30), (0xFE47, 0xFE4C), (0xFE52, 0xFE52), (0xFE55, 0xFE56),
  (0xFE5F, 0xFE5F), (0xFE64, 0xFE65), (0xFE68, 0xFE68), (0xFE6A, 0xFE6B), (0xFE70, 0xFE70),
  (0xFE72, 0xFE72), (0xFE74, 0xFE74), (0xFE76, 0xFE76), (0xFE78, 0xFE78), (0xFE7A, 0xFE7A),
  (0xFE7C, 0xFE7C), (0xFE7E, 0xFE7E), (0xFF03, 0xFF03), (0xFF05, 0xFF05), (0xFF0F, 0xFF0F),
  (0xFF1A, 0xFF1A), (0xFF1C, 0xFF1C), (0xFF1E, 0xFF20), (0xFF3B, 0xFF3E), (0xFF5C, 0xFF5C),
  (0xFFE3, 0xFFE3), (0xFFFC, 0xFFFD), (0x1F100, 0x1F100)]

/-- The two characters without a printed form that change how letters join. -/
def isJoiner (c : Char) : Bool := c.toNat == 0x200C || c.toNat == 0x200D

/-- The plain form of a character, if it may stand in names at all. -/
def plainForm? (c : Char) : Option (List Char) :=
  if c.toNat < 0x80 then some [c.toLower]
  else if isJoiner c then some [c]
  else if vanishing.holds c then some []
  else match (if c.toNat < 0x3000 then formRows else laterFormRows).findSome?
      fun row => row.form? c.toNat with
    | some form => some form
    | none => if barred.holds c || isUnprintable c then none else some [c]

/-- A character that is its own plain form. -/
def isPlain (c : Char) : Bool := plainForm? c == some [c]

/-- The plain form of a text. -/
def plainText? (cs : List Char) : Option (List Char) := (cs.mapM plainForm?).map List.flatten

/-- A character of ASCII has its small letter for a plain form. -/
theorem plainForm?_of_lt {c : Char} (h : c.toNat < 0x80) : plainForm? c = some [c.toLower] := by
  simp [plainForm?, h]

@[simp] theorem plainText?_nil : plainText? [] = some [] := rfl

end RebateRelay.Http.HostName
