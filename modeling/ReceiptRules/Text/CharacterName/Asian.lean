import ReceiptRules.Text.CharacterName.Naming

/-!
# Names of East Asian and other characters

The characters from 0x2c00 to 0xffff: kana and radicals, syllables, further letters of many scripts, and
the forms that stand for other characters.
-/

namespace ReceiptRules.Text.CharacterName

def asian : List Family := [
  ⟨"GLAGOLITIC CAPITAL LETTER ", [
    (0x2c00, "AZU;BUKY;VEDE;GLAGOLI;DOBRO;YESTU;ZHIVETE;DZELO;ZEMLJA;IZHE;INITIAL IZHE;I;DJERVI"),
    (0x2c0d, "KAKO;LJUDIJE;MYSLITE;NASHI;ONU;POKOJI;RITSI;SLOVO;TVRIDO;UKU;FRITU;HERU;OTU;PE"),
    (0x2c1b, "SHTA;TSI;CHRIVI;SHA;YERU;YERI;YATI;SPIDERY HA;YU;SMALL YUS;SMALL YUS WITH TAIL;YO"),
    (0x2c27, "IOTATED SMALL YUS;BIG YUS;IOTATED BIG YUS;FITA;IZHITSA;SHTAPIC;TROKUTASTI A"),
    (0x2c2e, "LATINATE MYSLITE;CAUDATE CHRIVI")]⟩,
  ⟨"GLAGOLITIC SMALL LETTER ", [
    (0x2c30, "AZU;BUKY;VEDE;GLAGOLI;DOBRO;YESTU;ZHIVETE;DZELO;ZEMLJA;IZHE;INITIAL IZHE;I;DJERVI"),
    (0x2c3d, "KAKO;LJUDIJE;MYSLITE;NASHI;ONU;POKOJI;RITSI;SLOVO;TVRIDO;UKU;FRITU;HERU;OTU;PE"),
    (0x2c4b, "SHTA;TSI;CHRIVI;SHA;YERU;YERI;YATI;SPIDERY HA;YU;SMALL YUS;SMALL YUS WITH TAIL;YO"),
    (0x2c57, "IOTATED SMALL YUS;BIG YUS;IOTATED BIG YUS;FITA;IZHITSA;SHTAPIC;TROKUTASTI A"),
    (0x2c5e, "LATINATE MYSLITE;CAUDATE CHRIVI")]⟩,
  ⟨"LATIN CAPITAL LETTER ", [
    (0x2c60, "L WITH DOUBLE BAR;;L WITH MIDDLE TILDE;P WITH STROKE;R WITH TAIL"),
    (0x2c67, "H WITH DESCENDER;;K WITH DESCENDER;;Z WITH DESCENDER;;ALPHA;M WITH HOOK"),
    (0x2c72, "W WITH HOOK;;;HALF H"), (0x2c7e, "S WITH SWASH TAIL;Z WITH SWASH TAIL"),
    (0xa722, "EGYPTOLOGICAL ALEF;;EGYPTOLOGICAL AIN;;HENG;;TZ;;TRESILLO;;CUATRILLO"),
    (0xa72e, "CUATRILLO WITH COMMA;;;;AA;;AO;;AU;;AV;;AV WITH HORIZONTAL BAR;;AY"),
    (0xa73e, "REVERSED C WITH DOT;;K WITH STROKE;;K WITH DIAGONAL STROKE"),
    (0xa744, "K WITH STROKE AND DIAGONAL STROKE;;BROKEN L;;L WITH HIGH STROKE"),
    (0xa74a, "O WITH LONG STROKE OVERLAY;;O WITH LOOP;;OO;;P WITH STROKE THROUGH DESCENDER"),
    (0xa752, "P WITH FLOURISH;;P WITH SQUIRREL TAIL;;Q WITH STROKE THROUGH DESCENDER"),
    (0xa758, "Q WITH DIAGONAL STROKE;;R ROTUNDA;;RUM ROTUNDA;;V WITH DIAGONAL STROKE;;VY"),
    (0xa762, "VISIGOTHIC Z;;THORN WITH STROKE;;THORN WITH STROKE THROUGH DESCENDER;;VEND;;ET"),
    (0xa76c, "IS;;CON"), (0xa78b, "SALTILLO;;;;;N WITH DESCENDER;;C WITH BAR;;;;B WITH FLOURISH"),
    (0xa798, "F WITH STROKE;;VOLAPUK AE;;VOLAPUK OE;;VOLAPUK UE;;G WITH OBLIQUE STROKE"),
    (0xa7a2, "K WITH OBLIQUE STROKE;;N WITH OBLIQUE STROKE;;R WITH OBLIQUE STROKE"),
    (0xa7a8, "S WITH OBLIQUE STROKE;;H WITH HOOK;REVERSED OPEN E;SCRIPT G;L WITH BELT"),
    (0xa7ae, "SMALL CAPITAL I;;;;J WITH CROSSED-TAIL;CHI;BETA;;OMEGA;;U WITH STROKE;;GLOTTAL A"),
    (0xa7bc, "GLOTTAL I;;GLOTTAL U;;OLD POLISH O;;ANGLICANA W;;C WITH PALATAL HOOK;S WITH HOOK"),
    (0xa7c6, "Z WITH PALATAL HOOK;D WITH SHORT STROKE OVERLAY;;S WITH SHORT STROKE OVERLAY"),
    (0xa7d0, "CLOSED INSULAR G;;;;;;MIDDLE SCOTS S;;SIGMOID S"), (0xa7f5, "REVERSED HALF H")]⟩,
  ⟨"LATIN SMALL LETTER ", [
    (0x2c61, "L WITH DOUBLE BAR;;;;A WITH STROKE;T WITH DIAGONAL STROKE;;H WITH DESCENDER"),
    (0x2c6a, "K WITH DESCENDER;;Z WITH DESCENDER;;;;;V WITH RIGHT HOOK;;W WITH HOOK;V WITH CURL"),
    (0x2c76, "HALF H;TAILLESS PHI;E WITH NOTCH;;O WITH LOW RING INSIDE"),
    (0xa723, "EGYPTOLOGICAL ALEF;;EGYPTOLOGICAL AIN;;HENG;;TZ;;TRESILLO;;CUATRILLO"),
    (0xa72f, "CUATRILLO WITH COMMA;;;;AA;;AO;;AU;;AV;;AV WITH HORIZONTAL BAR;;AY"),
    (0xa73f, "REVERSED C WITH DOT;;K WITH STROKE;;K WITH DIAGONAL STROKE"),
    (0xa745, "K WITH STROKE AND DIAGONAL STROKE;;BROKEN L;;L WITH HIGH STROKE"),
    (0xa74b, "O WITH LONG STROKE OVERLAY;;O WITH LOOP;;OO;;P WITH STROKE THROUGH DESCENDER"),
    (0xa753, "P WITH FLOURISH;;P WITH SQUIRREL TAIL;;Q WITH STROKE THROUGH DESCENDER"),
    (0xa759, "Q WITH DIAGONAL STROKE;;R ROTUNDA;;RUM ROTUNDA;;V WITH DIAGONAL STROKE;;VY"),
    (0xa763, "VISIGOTHIC Z;;THORN WITH STROKE;;THORN WITH STROKE THROUGH DESCENDER;;VEND;;ET"),
    (0xa76d, "IS;;CON;;DUM;LUM;MUM;NUM;RUM;;TUM;UM"), (0xa78c, "SALTILLO"),
    (0xa78e, "L WITH RETROFLEX HOOK AND BELT;;;N WITH DESCENDER;;C WITH BAR;C WITH PALATAL HOOK"),
    (0xa795, "H WITH PALATAL HOOK;;B WITH FLOURISH;;F WITH STROKE;;VOLAPUK AE;;VOLAPUK OE"),
    (0xa79f, "VOLAPUK UE;;G WITH OBLIQUE STROKE;;K WITH OBLIQUE STROKE;;N WITH OBLIQUE STROKE"),
    (0xa7a7, "R WITH OBLIQUE STROKE;;S WITH OBLIQUE STROKE"), (0xa7b5, "BETA;;OMEGA"),
    (0xa7b9, "U WITH STROKE;;GLOTTAL A;;GLOTTAL I;;GLOTTAL U;;OLD POLISH O;;ANGLICANA W"),
    (0xa7c8, "D WITH SHORT STROKE OVERLAY;;S WITH SHORT STROKE OVERLAY;;;;;;;CLOSED INSULAR G"),
    (0xa7d3, "DOUBLE THORN;;DOUBLE WYNN;;MIDDLE SCOTS S;;SIGMOID S"), (0xa7f6, "REVERSED HALF H"),
    (0xab30, "BARRED ALPHA;A REVERSED-SCHWA;BLACKLETTER E;BARRED E;E WITH FLOURISH;LENIS F"),
    (0xab36, "SCRIPT G WITH CROSSED-TAIL;L WITH INVERTED LAZY S;L WITH DOUBLE MIDDLE TILDE"),
    (0xab39, "L WITH MIDDLE RING;M WITH CROSSED-TAIL;N WITH CROSSED-TAIL;ENG WITH CROSSED-TAIL"),
    (0xab3d, "BLACKLETTER O;BLACKLETTER O WITH STROKE;OPEN O WITH STROKE;INVERTED OE"),
    (0xab45, "STIRRUP R;;R WITHOUT HANDLE;DOUBLE R;R WITH CROSSED-TAIL"),
    (0xab4a, "DOUBLE R WITH CROSSED-TAIL;SCRIPT R;SCRIPT R WITH RING;BASELINE ESH"),
    (0xab4e, "U WITH SHORT RIGHT LEG;U BAR WITH SHORT RIGHT LEG;UI;;U WITH LEFT HOOK;CHI"),
    (0xab54, "CHI WITH LOW RIGHT RING;CHI WITH LOW LEFT SERIF;X WITH LOW RIGHT RING"),
    (0xab57, "X WITH LONG LEFT LEG;X WITH LONG LEFT LEG AND LOW RIGHT RING"),
    (0xab59, "X WITH LONG LEFT LEG WITH SERIF;Y WITH SHORT RIGHT LEG;;;;;;SAKHA YAT;IOTIFIED E"),
    (0xab62, "OPEN OE;UO;INVERTED ALPHA;;DZ DIGRAPH WITH RETROFLEX HOOK"),
    (0xab67, "TS DIGRAPH WITH RETROFLEX HOOK")]⟩,
  ⟨"LATIN CAPITAL LETTER TURNED ", [
    (0x2c6f, "A;ALPHA"), (0xa77e, "INSULAR G;;L"), (0xa78d, "H"), (0xa7b0, "K;T")]⟩,
  ⟨"LATIN SMALL LETTER TURNED ", [
    (0x2c79, "R WITH TAIL"), (0xa77f, "INSULAR G;;L"), (0xab41, "OE WITH STROKE"),
    (0xab42, "OE WITH HORIZONTAL STROKE;O OPEN-O;O OPEN-O WITH STROKE"), (0xab51, "UI"),
    (0xab68, "R WITH MIDDLE TILDE")]⟩,
  ⟨"LATIN LETTER SMALL CAPITAL ", [
    (0x2c7b, "TURNED E"), (0xa730, "F;S"), (0xa776, "RUM"), (0xa7af, "Q"), (0xa7fa, "TURNED M"),
    (0xab46, "R WITH RIGHT LEG")]⟩,
  ⟨"LATIN ", [(0x2c7c, "SUBSCRIPT SMALL LETTER J")]⟩,
  ⟨"MODIFIER LETTER CAPITAL ", [(0x2c7d, "V"), (0xa7f2, "C;F;Q;;;;H WITH STROKE")]⟩,
  ⟨"COPTIC CAPITAL LETTER ", [
    (0x2c80, "ALFA;;VIDA;;GAMMA;;DALDA;;EIE;;SOU;;ZATA;;HATE;;THETHE;;IAUDA;;KAPA;;LAULA;;MI"),
    (0x2c9a, "NI;;KSI;;O;;PI;;RO;;SIMA;;TAU;;UA;;FI;;KHI;;PSI;;OOU;;DIALECT-P ALEF"),
    (0x2cb8, "DIALECT-P KAPA;;DIALECT-P NI;;;;;;SAMPI;;CROSSED SHEI;;;;;;AKHMIMIC KHEI"),
    (0x2cca, "DIALECT-P HORI;;;;;;L-SHAPED HA"), (0x2cf2, "BOHAIRIC KHEI")]⟩,
  ⟨"COPTIC SMALL LETTER ", [
    (0x2c81, "ALFA;;VIDA;;GAMMA;;DALDA;;EIE;;SOU;;ZATA;;HATE;;THETHE;;IAUDA;;KAPA;;LAULA;;MI"),
    (0x2c9b, "NI;;KSI;;O;;PI;;RO;;SIMA;;TAU;;UA;;FI;;KHI;;PSI;;OOU;;DIALECT-P ALEF"),
    (0x2cb9, "DIALECT-P KAPA;;DIALECT-P NI;;;;;;SAMPI;;CROSSED SHEI;;;;;;AKHMIMIC KHEI"),
    (0x2ccb, "DIALECT-P HORI;;;;;;L-SHAPED HA"), (0x2cf3, "BOHAIRIC KHEI")]⟩,
  ⟨"COPTIC CAPITAL LETTER OLD COPTIC ", [
    (0x2cb4, "AIN"), (0x2cbe, "OOU;;;;;;SHEI;;ESH;;;;;;HORI;;HA;;;;HEI;;HAT;;GANGIA;;DJA;;SHIMA")]⟩,
  ⟨"COPTIC SMALL LETTER OLD COPTIC ", [
    (0x2cb5, "AIN"), (0x2cbf, "OOU;;;;;;SHEI;;ESH;;;;;;HORI;;HA;;;;HEI;;HAT;;GANGIA;;DJA;;SHIMA")]⟩,
  ⟨"COPTIC CAPITAL LETTER CRYPTOGRAMMIC ", [(0x2cb6, "EIE;;;;;;NI"), (0x2ceb, "SHEI;;GANGIA")]⟩,
  ⟨"COPTIC SMALL LETTER CRYPTOGRAMMIC ", [(0x2cb7, "EIE;;;;;;NI"), (0x2cec, "SHEI;;GANGIA")]⟩,
  ⟨"COPTIC CAPITAL LETTER OLD ", [(0x2cdc, "NUBIAN SHIMA;;NUBIAN NGI;;NUBIAN NYI;;NUBIAN WAU")]⟩,
  ⟨"COPTIC SMALL LETTER OLD ", [(0x2cdd, "NUBIAN SHIMA;;NUBIAN NGI;;NUBIAN NYI;;NUBIAN WAU")]⟩,
  ⟨"COPTIC SYMBOL ", [(0x2ce4, "KAI;MI RO;PI RO;STAUROS;TAU RO;KHI RO;SHIMA SIMA")]⟩,
  ⟨"COPTIC COMBINING ", [(0x2cef, "NI ABOVE;SPIRITUS ASPER;SPIRITUS LENIS")]⟩,
  ⟨"COPTIC ", [
    (0x2cf9, "OLD NUBIAN FULL STOP;OLD NUBIAN DIRECT QUESTION MARK"),
    (0x2cfb, "OLD NUBIAN INDIRECT QUESTION MARK;OLD NUBIAN VERSE DIVIDER;FRACTION ONE HALF"),
    (0x2cfe, "FULL STOP;MORPHOLOGICAL DIVIDER")]⟩,
  ⟨"GEORGIAN SMALL LETTER ", [
    (0x2d00, "AN;BAN;GAN;DON;EN;VIN;ZEN;TAN;IN;KAN;LAS;MAN;NAR;ON;PAR;ZHAR;RAE;SAN;TAR;UN;PHAR"),
    (0x2d15, "KHAR;GHAN;QAR;SHIN;CHIN;CAN;JIL;CIL;CHAR;XAN;JHAN;HAE;HE;HIE;WE;HAR;HOE;;YN"),
    (0x2d2d, "AEN")]⟩,
  ⟨"TIFINAGH LETTER ", [
    (0x2d30, "YA;YAB;YABH;YAG;YAGHH;BERBER ACADEMY YAJ;YAJ;YAD;YADH;YADD;YADDH;YEY;YAF;YAK"),
    (0x2d3f, "YAKHH;YAH;BERBER ACADEMY YAH;;YAHH;YAA;YAKH;;YAQ;;YI;YAZH;AHAGGAR YAZH;;YAL;YAM"),
    (0x2d4f, "YAN;;;YAP;YU;YAR;YARR;YAGH;;AYER YAGH;YAS;YASS;YASH;YAT;YATH;YACH;YATT;YAV;YAW"),
    (0x2d62, "YAY;YAZ;TAWELLEMET YAZ;YAZZ;YE;YO")]⟩,
  ⟨"TIFINAGH LETTER TUAREG ", [(0x2d3e, "YAK;;;;YAH;;;;YAKH;;YAQ;;;;YAZH;;;;YAGN;YANG;;;;;;YAGH")]⟩,
  ⟨"TIFINAGH ", [
    (0x2d6f, "MODIFIER LETTER LABIALIZATION MARK;SEPARATOR MARK"), (0x2d7f, "CONSONANT JOINER")]⟩,
  ⟨"ETHIOPIC SYLLABLE ", [
    (0x2d80, "LOA;MOA;ROA;SOA;SHOA;BOA;TOA;COA;NOA;NYOA;GLOTTAL OA;ZOA;DOA;DDOA;JOA;THOA;CHOA"),
    (0x2d91, "PHOA;POA;GGWA;GGWI;GGWEE;GGWE"), (0x2da0, "SSA;SSU;SSI;SSAA;SSEE;SSE;SSO;;CCA;CCU"),
    (0x2daa, "CCI;CCAA;CCEE;CCE;CCO;;ZZA;ZZU;ZZI;ZZAA;ZZEE;ZZE;ZZO;;CCHA;CCHU;CCHI;CCHAA;CCHEE"),
    (0x2dbd, "CCHE;CCHO;;QYA;QYU;QYI;QYAA;QYEE;QYE;QYO;;KYA;KYU;KYI;KYAA;KYEE;KYE;KYO;;XYA;XYU"),
    (0x2dd2, "XYI;XYAA;XYEE;XYE;XYO;;GYA;GYU;GYI;GYAA;GYEE;GYE;GYO"), (0xab01, "TTHU;TTHI;TTHAA"),
    (0xab04, "TTHEE;TTHE;TTHO;;;DDHU;DDHI;DDHAA;DDHEE;DDHE;DDHO;;;DZU;DZI;DZAA;DZEE;DZE;DZO"),
    (0xab20, "CCHHA;CCHHU;CCHHI;CCHHAA;CCHHEE;CCHHE;CCHHO;;BBA;BBU;BBI;BBAA;BBEE;BBE;BBO")]⟩,
  ⟨"COMBINING CYRILLIC LETTER ", [
    (0x2de0, "BE;VE;GHE;DE;ZHE;ZE;KA;EL;EM;EN;O;PE;ER;ES;TE;HA;TSE;CHE;SHA;SHCHA;FITA;ES-TE;A"),
    (0x2df7, "IE;DJERV;MONOGRAPH UK;YAT;YU;IOTIFIED A;LITTLE YUS;BIG YUS;IOTIFIED BIG YUS"),
    (0xa674, "UKRAINIAN IE;I;YI;U;HARD SIGN;YERU;SOFT SIGN;OMEGA"), (0xa69e, "EF;IOTIFIED E")]⟩,
  ⟨"RIGHT ", [
    (0x2e00, "ANGLE SUBSTITUTION MARKER;ANGLE DOTTED SUBSTITUTION MARKER;;SUBSTITUTION BRACKET"),
    (0x2e05, "DOTTED SUBSTITUTION BRACKET;;;;;TRANSPOSITION BRACKET;;;RAISED OMISSION BRACKET"),
    (0x2e1d, "LOW PARAPHRASE BRACKET;;;;VERTICAL BAR WITH QUILL;;;;;;SIDEWAYS U BRACKET"),
    (0x2e29, "DOUBLE PARENTHESIS"), (0x2e56, "SQUARE BRACKET WITH STROKE"),
    (0x2e58, "SQUARE BRACKET WITH DOUBLE STROKE"), (0x3009, "ANGLE BRACKET"),
    (0x300b, "DOUBLE ANGLE BRACKET;;CORNER BRACKET;;;;BLACK LENTICULAR BRACKET"),
    (0x3015, "TORTOISE SHELL BRACKET")]⟩,
  ⟨"LEFT ", [
    (0x2e02, "SUBSTITUTION BRACKET;;DOTTED SUBSTITUTION BRACKET;;;;;TRANSPOSITION BRACKET"),
    (0x2e0c, "RAISED OMISSION BRACKET"), (0x2e1c, "LOW PARAPHRASE BRACKET"),
    (0x2e20, "VERTICAL BAR WITH QUILL;;;;;;SIDEWAYS U BRACKET;;DOUBLE PARENTHESIS"),
    (0x2e55, "SQUARE BRACKET WITH STROKE;;SQUARE BRACKET WITH DOUBLE STROKE"),
    (0x3008, "ANGLE BRACKET;;DOUBLE ANGLE BRACKET;;CORNER BRACKET;;;;BLACK LENTICULAR BRACKET"),
    (0x3014, "TORTOISE SHELL BRACKET")]⟩,
  ⟨"RAISED ", [
    (0x2e06, "INTERPOLATION MARKER;DOTTED INTERPOLATION MARKER;;;;SQUARE"), (0x2e33, "DOT;COMMA")]⟩,
  ⟨"DOTTED ", [
    (0x2e08, "TRANSPOSITION MARKER"), (0x2e13, "OBELOS;;;RIGHT-POINTING ANGLE"),
    (0x2e4a, "SOLIDUS")]⟩,
  ⟨"", [
    (0x2e0e, "EDITORIAL CORONIS;PARAGRAPHOS;FORKED PARAGRAPHOS;;HYPODIASTOLE;;DOWNWARDS ANCORA"),
    (0x2e15, "UPWARDS ANCORA;;;;PALM BRANCH;HYPHEN WITH DIAERESIS"),
    (0x2e2a, "TWO DOTS OVER ONE DOT PUNCTUATION;ONE DOT OVER TWO DOTS PUNCTUATION"),
    (0x2e2c, "SQUARED FOUR DOT PUNCTUATION;FIVE DOT MARK;;;RING POINT;WORD SEPARATOR MIDDLE DOT"),
    (0x2e36, "DAGGER WITH LEFT GUARD;DAGGER WITH RIGHT GUARD;;;TWO-EM DASH;THREE-EM DASH"),
    (0x2e3c, "STENOGRAPHIC FULL STOP;;WIGGLY VERTICAL LINE;CAPITULUM;;;;DASH WITH LEFT UPTURN"),
    (0x2e47, "LOW KAVYKA;LOW KAVYKA WITH DOT;;;TRIPLE DAGGER;;PARAGRAPHUS MARK"),
    (0x2e4e, "PUNCTUS ELEVATUS MARK;CORNISH VERSE DIVIDER;CROSS PATTY WITH RIGHT CROSSBAR"),
    (0x2e51, "CROSS PATTY WITH LEFT CROSSBAR;TIRONIAN SIGN CAPITAL ET"),
    (0x2e5d, "OBLIQUE HYPHEN"), (0x3003, "DITTO MARK;JAPANESE INDUSTRIAL STANDARD SYMBOL"),
    (0x3012, "POSTAL MARK;GETA MARK"), (0x301c, "WAVE DASH;;;LOW DOUBLE PRIME QUOTATION MARK"),
    (0x3020, "POSTAL MARK FACE"), (0x3030, "WAVY DASH"), (0x303c, "MASU MARK"),
    (0x303d, "PART ALTERNATION MARK"), (0x3250, "PARTNERSHIP SIGN"),
    (0x327f, "KOREAN STANDARD SYMBOL"), (0x32cf, "LIMITED LIABILITY SIGN"),
    (0xa673, "SLAVONIC ASTERISK"), (0xab65, "GREEK LETTER SMALL CAPITAL OMEGA"),
    (0xfd3e, "ORNATE LEFT PARENTHESIS;ORNATE RIGHT PARENTHESIS"), (0xfdfc, "RIAL SIGN"),
    (0xfe45, "SESAME DOT;WHITE SESAME DOT;;;DASHED OVERLINE;CENTRELINE OVERLINE;WAVY OVERLINE"),
    (0xfe4d, "DASHED LOW LINE;CENTRELINE LOW LINE;WAVY LOW LINE"),
    (0xfeff, "ZERO WIDTH NO-BREAK SPACE"), (0xfffc, "OBJECT REPLACEMENT CHARACTER"),
    (0xfffd, "REPLACEMENT CHARACTER")]⟩,
  ⟨"REVERSED ", [
    (0x2e11, "FORKED PARAGRAPHOS"), (0x2e2e, "QUESTION MARK"), (0x2e41, "COMMA"),
    (0x301d, "DOUBLE PRIME QUOTATION MARK")]⟩,
  ⟨"DOUBLE ", [
    (0x2e17, "OBLIQUE HYPHEN"), (0x2e40, "HYPHEN;;LOW-REVERSED-9 QUOTATION MARK"),
    (0x2e44, "SUSPENSION MARK;;;;;STACKED COMMA"), (0x301e, "PRIME QUOTATION MARK"),
    (0xfe4c, "WAVY OVERLINE")]⟩,
  ⟨"INVERTED ", [(0x2e18, "INTERROBANG"), (0x2e45, "LOW KAVYKA;LOW KAVYKA WITH KAVYKA ABOVE")]⟩,
  ⟨"TILDE ", [(0x2e1b, "WITH RING ABOVE;;;WITH DOT ABOVE;WITH DOT BELOW")]⟩,
  ⟨"TOP ", [
    (0x2e22, "LEFT HALF BRACKET;RIGHT HALF BRACKET"), (0x2e39, "HALF SECTION SIGN"),
    (0x2e59, "HALF LEFT PARENTHESIS;HALF RIGHT PARENTHESIS")]⟩,
  ⟨"BOTTOM ", [
    (0x2e24, "LEFT HALF BRACKET;RIGHT HALF BRACKET"), (0x2e5b, "HALF LEFT PARENTHESIS"),
    (0x2e5c, "HALF RIGHT PARENTHESIS")]⟩,
  ⟨"VERTICAL ", [(0x2e2f, "TILDE"), (0x2e3d, "SIX DOTS"), (0x303b, "IDEOGRAPHIC ITERATION MARK")]⟩,
  ⟨"TURNED ", [(0x2e32, "COMMA;;;SEMICOLON;;;DAGGER")]⟩,
  ⟨"MEDIEVAL ", [(0x2e4c, "COMMA;;;;;;;EXCLAMATION MARK;QUESTION MARK")]⟩,
  ⟨"CJK RADICAL ", [
    (0x2e80, "REPEAT;CLIFF;SECOND ONE;SECOND TWO;SECOND THREE;PERSON;BOX;TABLE;KNIFE ONE"),
    (0x2e89, "KNIFE TWO;DIVINATION;SEAL;SMALL ONE;SMALL TWO;LAME ONE;LAME TWO;LAME THREE"),
    (0x2e91, "LAME FOUR;SNAKE;THREAD;SNOUT ONE;SNOUT TWO;HEART ONE;HEART TWO;HAND;RAP;;CHOKE"),
    (0x2e9c, "SUN;MOON;DEATH;MOTHER;CIVILIAN;WATER ONE;WATER TWO;FIRE;PAW ONE;PAW TWO;;COW;DOG"),
    (0x2ea9, "JADE;BOLT OF CLOTH;EYE;SPIRIT ONE;SPIRIT TWO;BAMBOO;SILK;;NET ONE;NET TWO"),
    (0x2eb3, "NET THREE;NET FOUR;MESH;SHEEP;RAM;EWE;OLD;BRUSH ONE;BRUSH TWO;MEAT;MORTAR"),
    (0x2ebe, "GRASS ONE;GRASS TWO;GRASS THREE;TIGER;CLOTHES;WEST ONE;WEST TWO;;;HORN;;;FOOT"),
    (0x2ecd, "WALK ONE;WALK TWO;CITY;;LONG ONE;LONG TWO;;;MOUND ONE;MOUND TWO;RAIN;BLUE"),
    (0x2edd, "EAT ONE;EAT TWO;EAT THREE;;HEAD;;BONE;GHOST"), (0x2ef1, "TURTLE")]⟩,
  ⟨"CJK RADICAL SIMPLIFIED ", [
    (0x2ea6, "HALF TREE TRUNK"), (0x2ec6, "HORN;;;;;;WALK"), (0x2ee8, "WHEAT;YELLOW")]⟩,
  ⟨"CJK RADICAL C-SIMPLIFIED ", [
    (0x2eb0, "SILK"), (0x2ec5, "SEE;;;SPEECH;SHELL;;CART;;;;;GOLD;;;LONG;GATE"),
    (0x2ed9, "TANNED LEATHER;LEAF;WIND;FLY;;;;EAT;;HORSE;;;FISH;BIRD;SALT;;;FROG;;EVEN;;TOOTH"),
    (0x2ef0, "DRAGON;;;TURTLE")]⟩,
  ⟨"CJK RADICAL J-SIMPLIFIED ", [(0x2eeb, "EVEN;;TOOTH;;DRAGON;;;TURTLE")]⟩,
  ⟨"KANGXI RADICAL ", [
    (0x2f00, "ONE;LINE;DOT;SLASH;SECOND;HOOK;TWO;LID;MAN;LEGS;ENTER;EIGHT;DOWN BOX;COVER;ICE"),
    (0x2f0f, "TABLE;OPEN BOX;KNIFE;POWER;WRAP;SPOON;RIGHT OPEN BOX;HIDING ENCLOSURE;TEN"),
    (0x2f18, "DIVINATION;SEAL;CLIFF;PRIVATE;AGAIN;MOUTH;ENCLOSURE;EARTH;SCHOLAR;GO;GO SLOWLY"),
    (0x2f23, "EVENING;BIG;WOMAN;CHILD;ROOF;INCH;SMALL;LAME;CORPSE;SPROUT;MOUNTAIN;RIVER;WORK"),
    (0x2f30, "ONESELF;TURBAN;DRY;SHORT THREAD;DOTTED CLIFF;LONG STRIDE;TWO HANDS;SHOOT;BOW"),
    (0x2f39, "SNOUT;BRISTLE;STEP;HEART;HALBERD;DOOR;HAND;BRANCH;RAP;SCRIPT;DIPPER;AXE;SQUARE"),
    (0x2f46, "NOT;SUN;SAY;MOON;TREE;LACK;STOP;DEATH;WEAPON;DO NOT;COMPARE;FUR;CLAN;STEAM;WATER"),
    (0x2f55, "FIRE;CLAW;FATHER;DOUBLE X;HALF TREE TRUNK;SLICE;FANG;COW;DOG;PROFOUND;JADE;MELON"),
    (0x2f61, "TILE;SWEET;LIFE;USE;FIELD;BOLT OF CLOTH;SICKNESS;DOTTED TENT;WHITE;SKIN;DISH;EYE"),
    (0x2f6d, "SPEAR;ARROW;STONE;SPIRIT;TRACK;GRAIN;CAVE;STAND;BAMBOO;RICE;SILK;JAR;NET;SHEEP"),
    (0x2f7b, "FEATHER;OLD;AND;PLOW;EAR;BRUSH;MEAT;MINISTER;SELF;ARRIVE;MORTAR;TONGUE;OPPOSE"),
    (0x2f88, "BOAT;STOPPING;COLOR;GRASS;TIGER;INSECT;BLOOD;WALK ENCLOSURE;CLOTHES;WEST;SEE;HORN"),
    (0x2f94, "SPEECH;VALLEY;BEAN;PIG;BADGER;SHELL;RED;RUN;FOOT;BODY;CART;BITTER;MORNING;WALK"),
    (0x2fa2, "CITY;WINE;DISTINGUISH;VILLAGE;GOLD;LONG;GATE;MOUND;SLAVE;SHORT TAILED BIRD;RAIN"),
    (0x2fad, "BLUE;WRONG;FACE;LEATHER;TANNED LEATHER;LEEK;SOUND;LEAF;WIND;FLY;EAT;HEAD;FRAGRANT"),
    (0x2fba, "HORSE;BONE;TALL;HAIR;FIGHT;SACRIFICIAL WINE;CAULDRON;GHOST;FISH;BIRD;SALT;DEER"),
    (0x2fc6, "WHEAT;HEMP;YELLOW;MILLET;BLACK;EMBROIDERY;FROG;TRIPOD;DRUM;RAT;NOSE;EVEN;TOOTH"),
    (0x2fd3, "DRAGON;TURTLE;FLUTE")]⟩,
  ⟨"IDEOGRAPHIC DESCRIPTION CHARACTER ", [
    (0x2ff0, "LEFT TO RIGHT;ABOVE TO BELOW;LEFT TO MIDDLE AND RIGHT;ABOVE TO MIDDLE AND BELOW"),
    (0x2ff4, "FULL SURROUND;SURROUND FROM ABOVE;SURROUND FROM BELOW;SURROUND FROM LEFT"),
    (0x2ff8, "SURROUND FROM UPPER LEFT;SURROUND FROM UPPER RIGHT;SURROUND FROM LOWER LEFT"),
    (0x2ffb, "OVERLAID")]⟩,
  ⟨"IDEOGRAPHIC ", [
    (0x3000, "SPACE;COMMA;FULL STOP;;;ITERATION MARK;CLOSING MARK;NUMBER ZERO"),
    (0x302a, "LEVEL TONE MARK;RISING TONE MARK;DEPARTING TONE MARK;ENTERING TONE MARK"),
    (0x303e, "VARIATION INDICATOR;HALF FILL SPACE")]⟩,
  ⟨"LEFT WHITE ", [
    (0x300e, "CORNER BRACKET;;;;;;;;LENTICULAR BRACKET;;TORTOISE SHELL BRACKET;;SQUARE BRACKET")]⟩,
  ⟨"RIGHT WHITE ", [
    (0x300f, "CORNER BRACKET;;;;;;;;LENTICULAR BRACKET;;TORTOISE SHELL BRACKET;;SQUARE BRACKET")]⟩,
  ⟨"HANGZHOU NUMERAL ", [
    (0x3021, "ONE;TWO;THREE;FOUR;FIVE;SIX;SEVEN;EIGHT;NINE"), (0x3038, "TEN;TWENTY;THIRTY")]⟩,
  ⟨"HANGUL ", [(0x302e, "SINGLE DOT TONE MARK;DOUBLE DOT TONE MARK"), (0x3164, "FILLER")]⟩,
  ⟨"VERTICAL KANA REPEAT ", [
    (0x3031, "MARK;WITH VOICED SOUND MARK;MARK UPPER HALF;WITH VOICED SOUND MARK UPPER HALF"),
    (0x3035, "MARK LOWER HALF")]⟩,
  ⟨"CIRCLED ", [
    (0x3036, "POSTAL MARK"), (0x327c, "KOREAN CHARACTER CHAMKO;KOREAN CHARACTER JUEUI")]⟩,
  ⟨"IDEOGRAPHIC TELEGRAPH ", [(0x3037, "LINE FEED SEPARATOR SYMBOL")]⟩,
  ⟨"HIRAGANA LETTER SMALL ", [
    (0x3041, "A;;I;;U;;E;;O"), (0x3063, "TU"), (0x3083, "YA;;YU;;YO;;;;;;;WA;;;;;;;KA;KE")]⟩,
  ⟨"HIRAGANA LETTER ", [
    (0x3042, "A;;I;;U;;E;;O;KA;GA;KI;GI;KU;GU;KE;GE;KO;GO;SA;ZA;SI;ZI;SU;ZU;SE;ZE;SO;ZO;TA;DA"),
    (0x3061, "TI;DI;;TU;DU;TE;DE;TO;DO;NA;NI;NU;NE;NO;HA;BA;PA;HI;BI;PI;HU;BU;PU;HE;BE;PE;HO;BO"),
    (0x307d, "PO;MA;MI;MU;ME;MO;;YA;;YU;;YO;RA;RI;RU;RE;RO;;WA;WI;WE;WO;N;VU")]⟩,
  ⟨"COMBINING ", [
    (0x3099, "KATAKANA-HIRAGANA VOICED SOUND MARK;KATAKANA-HIRAGANA SEMI-VOICED SOUND MARK"),
    (0xfe22, "DOUBLE TILDE LEFT HALF;DOUBLE TILDE RIGHT HALF;MACRON LEFT HALF;MACRON RIGHT HALF"),
    (0xfe26, "CONJOINING MACRON;;;TILDE LEFT HALF BELOW;TILDE RIGHT HALF BELOW"),
    (0xfe2b, "MACRON LEFT HALF BELOW;MACRON RIGHT HALF BELOW;CONJOINING MACRON BELOW")]⟩,
  ⟨"KATAKANA-HIRAGANA ", [
    (0x309b, "VOICED SOUND MARK;SEMI-VOICED SOUND MARK;;;;DOUBLE HYPHEN"),
    (0x30fc, "PROLONGED SOUND MARK")]⟩,
  ⟨"HIRAGANA ", [(0x309d, "ITERATION MARK;VOICED ITERATION MARK;DIGRAPH YORI")]⟩,
  ⟨"KATAKANA LETTER SMALL ", [
    (0x30a1, "A;;I;;U;;E;;O"), (0x30c3, "TU"), (0x30e3, "YA;;YU;;YO;;;;;;;WA;;;;;;;KA;KE"),
    (0x31f0, "KU;SI;SU;TO;NU;HA;HI;HU;HE;HO;MU;RA;RI;RU;RE;RO")]⟩,
  ⟨"KATAKANA LETTER ", [
    (0x30a2, "A;;I;;U;;E;;O;KA;GA;KI;GI;KU;GU;KE;GE;KO;GO;SA;ZA;SI;ZI;SU;ZU;SE;ZE;SO;ZO;TA;DA"),
    (0x30c1, "TI;DI;;TU;DU;TE;DE;TO;DO;NA;NI;NU;NE;NO;HA;BA;PA;HI;BI;PI;HU;BU;PU;HE;BE;PE;HO;BO"),
    (0x30dd, "PO;MA;MI;MU;ME;MO;;YA;;YU;;YO;RA;RI;RU;RE;RO;;WA;WI;WE;WO;N;VU;;;VA;VI;VE;VO")]⟩,
  ⟨"KATAKANA ", [(0x30fb, "MIDDLE DOT;;ITERATION MARK;VOICED ITERATION MARK;DIGRAPH KOTO")]⟩,
  ⟨"BOPOMOFO LETTER ", [
    (0x3105, "B;P;M;F;D;T;N;L;G;K;H;J;Q;X;ZH;CH;SH;R;Z;C;S;A;O;E;EH;AI;EI;AU;OU;AN;EN;ANG;ENG"),
    (0x3126, "ER;I;U;IU;V;NG;GN;IH;O WITH DOT ABOVE;NN"), (0x31a0, "BU;ZI;JI;GU;EE;ENN;OO;ONN"),
    (0x31a8, "IR;ANN;INN;UNN;IM;NGG;AINN;AUNN;AM;OM;ONG;INNN;;;;;GH;LH;ZY;;GW;KW;OE;AH")]⟩,
  ⟨"HANGUL LETTER ", [
    (0x3131, "KIYEOK;SSANGKIYEOK;KIYEOK-SIOS;NIEUN;NIEUN-CIEUC;NIEUN-HIEUH;TIKEUT;SSANGTIKEUT"),
    (0x3139, "RIEUL;RIEUL-KIYEOK;RIEUL-MIEUM;RIEUL-PIEUP;RIEUL-SIOS;RIEUL-THIEUTH;RIEUL-PHIEUPH"),
    (0x3140, "RIEUL-HIEUH;MIEUM;PIEUP;SSANGPIEUP;PIEUP-SIOS;SIOS;SSANGSIOS;IEUNG;CIEUC"),
    (0x3149, "SSANGCIEUC;CHIEUCH;KHIEUKH;THIEUTH;PHIEUPH;HIEUH;A;AE;YA;YAE;EO;E;YEO;YE;O;WA;WAE"),
    (0x315a, "OE;YO;U;WEO;WE;WI;YU;EU;YI;I;;SSANGNIEUN;NIEUN-TIKEUT;NIEUN-SIOS;NIEUN-PANSIOS"),
    (0x3169, "RIEUL-KIYEOK-SIOS;RIEUL-TIKEUT;RIEUL-PIEUP-SIOS;RIEUL-PANSIOS;RIEUL-YEORINHIEUH"),
    (0x316e, "MIEUM-PIEUP;MIEUM-SIOS;MIEUM-PANSIOS;KAPYEOUNMIEUM;PIEUP-KIYEOK;PIEUP-TIKEUT"),
    (0x3174, "PIEUP-SIOS-KIYEOK;PIEUP-SIOS-TIKEUT;PIEUP-CIEUC;PIEUP-THIEUTH;KAPYEOUNPIEUP"),
    (0x3179, "KAPYEOUNSSANGPIEUP;SIOS-KIYEOK;SIOS-NIEUN;SIOS-TIKEUT;SIOS-PIEUP;SIOS-CIEUC"),
    (0x317f, "PANSIOS;SSANGIEUNG;YESIEUNG;YESIEUNG-SIOS;YESIEUNG-PANSIOS;KAPYEOUNPHIEUPH"),
    (0x3185, "SSANGHIEUH;YEORINHIEUH;YO-YA;YO-YAE;YO-I;YU-YEO;YU-YE;YU-I;ARAEA;ARAEAE")]⟩,
  ⟨"IDEOGRAPHIC ANNOTATION ", [
    (0x3190, "LINKING MARK;REVERSE MARK;ONE MARK;TWO MARK;THREE MARK;FOUR MARK;TOP MARK"),
    (0x3197, "MIDDLE MARK;BOTTOM MARK;FIRST MARK;SECOND MARK;THIRD MARK;FOURTH MARK;HEAVEN MARK"),
    (0x319e, "EARTH MARK;MAN MARK")]⟩,
  ⟨"BOPOMOFO FINAL LETTER ", [(0x31b4, "P;T;K;H;;;;G")]⟩,
  ⟨"CJK STROKE ", [
    (0x31c0, "T;WG;XG;BXG;SW;HZZ;HZG;HP;HZWG;SZWG;HZT;HZZP;HPWG;HZW;HZZZ;N;H;S;P;SP;D;HZ;HG;SZ"),
    (0x31d8, "SWZ;ST;SG;PD;PZ;TN;SZZ;SWG;HXWG;HZZZG;PG;Q")]⟩,
  ⟨"PARENTHESIZED HANGUL ", [
    (0x3200, "KIYEOK;NIEUN;TIKEUT;RIEUL;MIEUM;PIEUP;SIOS;IEUNG;CIEUC;CHIEUCH;KHIEUKH;THIEUTH"),
    (0x320c, "PHIEUPH;HIEUH;KIYEOK A;NIEUN A;TIKEUT A;RIEUL A;MIEUM A;PIEUP A;SIOS A;IEUNG A"),
    (0x3216, "CIEUC A;CHIEUCH A;KHIEUKH A;THIEUTH A;PHIEUPH A;HIEUH A;CIEUC U")]⟩,
  ⟨"PARENTHESIZED ", [(0x321d, "KOREAN CHARACTER OJEON;KOREAN CHARACTER O HU")]⟩,
  ⟨"PARENTHESIZED IDEOGRAPH ", [
    (0x3220, "ONE;TWO;THREE;FOUR;FIVE;SIX;SEVEN;EIGHT;NINE;TEN;MOON;FIRE;WATER;WOOD;METAL;EARTH"),
    (0x3230, "SUN;STOCK;HAVE;SOCIETY;NAME;SPECIAL;FINANCIAL;CONGRATULATION;LABOR;REPRESENT;CALL"),
    (0x323b, "STUDY;SUPERVISE;ENTERPRISE;RESOURCE;ALLIANCE;FESTIVAL;REST;SELF;REACH")]⟩,
  ⟨"CIRCLED IDEOGRAPH ", [
    (0x3244, "QUESTION;KINDERGARTEN;SCHOOL;KOTO"), (0x3280, "ONE;TWO;THREE;FOUR;FIVE;SIX;SEVEN"),
    (0x3287, "EIGHT;NINE;TEN;MOON;FIRE;WATER;WOOD;METAL;EARTH;SUN;STOCK;HAVE;SOCIETY;NAME"),
    (0x3295, "SPECIAL;FINANCIAL;CONGRATULATION;LABOR;SECRET;MALE;FEMALE;SUITABLE;EXCELLENT"),
    (0x329e, "PRINT;ATTENTION;ITEM;REST;COPY;CORRECT;HIGH;CENTRE;LOW;LEFT;RIGHT;MEDICINE"),
    (0x32aa, "RELIGION;STUDY;SUPERVISE;ENTERPRISE;RESOURCE;ALLIANCE;NIGHT")]⟩,
  ⟨"CIRCLED NUMBER ", [
    (0x3248, "TEN ON BLACK SQUARE;;;;FIFTY ON BLACK SQUARE;SIXTY ON BLACK SQUARE"),
    (0x324e, "SEVENTY ON BLACK SQUARE;EIGHTY ON BLACK SQUARE"), (0x325a, "THIRTY"),
    (0x32b5, "FORTY"), (0x32bf, "FIFTY")]⟩,
  ⟨"CIRCLED NUMBER TWENTY ", [
    (0x3249, "ON BLACK SQUARE;;;;;;;;ONE;TWO;THREE;FOUR;FIVE;SIX;SEVEN;EIGHT;NINE")]⟩,
  ⟨"CIRCLED NUMBER THIRTY ", [
    (0x324a, "ON BLACK SQUARE"), (0x325b, "ONE;TWO;THREE;FOUR;FIVE"), (0x32b1, "SIX;SEVEN;EIGHT"),
    (0x32b4, "NINE")]⟩,
  ⟨"CIRCLED NUMBER FORTY ", [
    (0x324b, "ON BLACK SQUARE"), (0x32b6, "ONE;TWO;THREE;FOUR;FIVE;SIX;SEVEN;EIGHT;NINE")]⟩,
  ⟨"CIRCLED HANGUL ", [
    (0x3260, "KIYEOK;NIEUN;TIKEUT;RIEUL;MIEUM;PIEUP;SIOS;IEUNG;CIEUC;CHIEUCH;KHIEUKH;THIEUTH"),
    (0x326c, "PHIEUPH;HIEUH;KIYEOK A;NIEUN A;TIKEUT A;RIEUL A;MIEUM A;PIEUP A;SIOS A;IEUNG A"),
    (0x3276, "CIEUC A;CHIEUCH A;KHIEUKH A;THIEUTH A;PHIEUPH A;HIEUH A;;;IEUNG U")]⟩,
  ⟨"IDEOGRAPHIC TELEGRAPH SYMBOL FOR ", [
    (0x32c0, "JANUARY;FEBRUARY;MARCH;APRIL;MAY;JUNE;JULY;AUGUST;SEPTEMBER;OCTOBER;NOVEMBER"),
    (0x32cb, "DECEMBER")]⟩,
  ⟨"SQUARE ", [
    (0x32cc, "HG;ERG;EV"), (0x32ff, "ERA NAME REIWA;APAATO;ARUHUA;ANPEA;AARU;ININGU;INTI;UON"),
    (0x3307, "ESUKUUDO;EEKAA;ONSU;OOMU;KAIRI;KARATTO;KARORII;GARON;GANMA;GIGA;GINII;KYURII"),
    (0x3313, "GIRUDAA;KIRO;KIROGURAMU;KIROMEETORU;KIROWATTO;GURAMU;GURAMUTON;KURUZEIRO;KUROONE"),
    (0x331c, "KEESU;KORUNA;KOOPO;SAIKURU;SANTIIMU;SIRINGU;SENTI;SENTO;DAASU;DESI;DORU;TON;NANO"),
    (0x3329, "NOTTO;HAITU;PAASENTO;PAATU;BAARERU;PIASUTORU;PIKURU;PIKO;BIRU;HUARADDO;HUIITO"),
    (0x3334, "BUSSYERU;HURAN;HEKUTAARU;PESO;PENIHI;HERUTU;PENSU;PEEZI;BEETA;POINTO;BORUTO;HON"),
    (0x3340, "PONDO;HOORU;HOON;MAIKURO;MAIRU;MAHHA;MARUKU;MANSYON;MIKURON;MIRI;MIRIBAARU;MEGA"),
    (0x334c, "MEGATON;MEETORU;YAADO;YAARU;YUAN;RITTORU;RIRA;RUPII;RUUBURU;REMU;RENTOGEN;WATTO"),
    (0x3371, "HPA;DA;AU;BAR;OV;PC;DM;DM SQUARED;DM CUBED;IU;ERA NAME HEISEI;ERA NAME SYOUWA"),
    (0x337d, "ERA NAME TAISYOU;ERA NAME MEIZI;CORPORATION;PA AMPS;NA;;MA;KA;KB;MB;GB;CAL;KCAL"),
    (0x338a, "PF;NF;;;MG;KG;HZ;KHZ;MHZ;GHZ;THZ;;ML;DL;KL;FM;NM;;MM;CM;KM;MM SQUARED;CM SQUARED"),
    (0x33a1, "M SQUARED;KM SQUARED;MM CUBED;CM CUBED;M CUBED;KM CUBED;M OVER S;M OVER S SQUARED"),
    (0x33a9, "PA;KPA;MPA;GPA;RAD;RAD OVER S;RAD OVER S SQUARED;PS;NS;;MS;PV;NV;;MV;KV;MV MEGA"),
    (0x33ba, "PW;NW;;MW;KW;MW MEGA;K OHM;M OHM;AM;BQ;CC;CD;C OVER KG;CO;DB;GY;HA;HP;IN;KK"),
    (0x33ce, "KM CAPITAL;KT;LM;LN;LOG;LX;MB SMALL;MIL;MOL;PH;PM;PPM;PR;SR;SV;WB;V OVER M"),
    (0x33df, "A OVER M"), (0x33ff, "GAL")]⟩,
  ⟨"CIRCLED KATAKANA ", [
    (0x32d0, "A;I;U;E;O;KA;KI;KU;KE;KO;SA;SI;SU;SE;SO;TA;TI;TU;TE;TO;NA;NI;NU;NE;NO;HA;HI;HU;HE"),
    (0x32ed, "HO;MA;MI;MU;ME;MO;YA;YU;YO;RA;RI;RU;RE;RO;WA;WI;WE;WO")]⟩,
  ⟨"IDEOGRAPHIC TELEGRAPH SYMBOL FOR HOUR ", [
    (0x3358, "ZERO;ONE;TWO;THREE;FOUR;FIVE;SIX;SEVEN;EIGHT;NINE;TEN;ELEVEN;TWELVE;THIRTEEN"),
    (0x3366, "FOURTEEN;FIFTEEN;SIXTEEN;SEVENTEEN;EIGHTEEN;NINETEEN;TWENTY;TWENTY-ONE;TWENTY-TWO"),
    (0x336f, "TWENTY-THREE;TWENTY-FOUR")]⟩,
  ⟨"SQUARE MU ", [(0x3382, "A"), (0x338c, "F;G;;;;;;;;L;;;;;;M"), (0x33b2, "S;;;;V;;;;;;W")]⟩,
  ⟨"IDEOGRAPHIC TELEGRAPH SYMBOL FOR DAY ", [
    (0x33e0, "ONE;TWO;THREE;FOUR;FIVE;SIX;SEVEN;EIGHT;NINE;TEN;ELEVEN;TWELVE;THIRTEEN;FOURTEEN"),
    (0x33ee, "FIFTEEN;SIXTEEN;SEVENTEEN;EIGHTEEN;NINETEEN;TWENTY;TWENTY-ONE;TWENTY-TWO"),
    (0x33f6, "TWENTY-THREE;TWENTY-FOUR;TWENTY-FIVE;TWENTY-SIX;TWENTY-SEVEN;TWENTY-EIGHT"),
    (0x33fc, "TWENTY-NINE;THIRTY;THIRTY-ONE")]⟩,
  ⟨"HEXAGRAM FOR THE ", [
    (0x4dc0, "CREATIVE HEAVEN;RECEPTIVE EARTH;;;;;ARMY"), (0x4ddc, "ABYSMAL WATER;CLINGING FIRE"),
    (0x4de4, "FAMILY"), (0x4def, "WELL;;CAULDRON;AROUSING THUNDER;KEEPING STILL MOUNTAIN"),
    (0x4df5, "MARRYING MAIDEN;;WANDERER;GENTLE WIND;JOYOUS LAKE")]⟩,
  ⟨"HEXAGRAM FOR ", [
    (0x4dc2, "DIFFICULTY AT THE BEGINNING;YOUTHFUL FOLLY;WAITING;CONFLICT;;HOLDING TOGETHER"),
    (0x4dc8, "SMALL TAMING;TREADING;PEACE;STANDSTILL;FELLOWSHIP;GREAT POSSESSION;MODESTY"),
    (0x4dcf, "ENTHUSIASM;FOLLOWING;WORK ON THE DECAYED;APPROACH;CONTEMPLATION;BITING THROUGH"),
    (0x4dd5, "GRACE;SPLITTING APART;RETURN;INNOCENCE;GREAT TAMING;MOUTH CORNERS"),
    (0x4ddb, "GREAT PREPONDERANCE;;;INFLUENCE;DURATION;RETREAT;GREAT POWER;PROGRESS"),
    (0x4de3, "DARKENING OF THE LIGHT;;OPPOSITION;OBSTRUCTION;DELIVERANCE;DECREASE;INCREASE"),
    (0x4dea, "BREAKTHROUGH;COMING TO MEET;GATHERING TOGETHER;PUSHING UPWARD;OPPRESSION"),
    (0x4df0, "REVOLUTION;;;;DEVELOPMENT;;ABUNDANCE;;;;DISPERSION;LIMITATION;INNER TRUTH"),
    (0x4dfd, "SMALL PREPONDERANCE;AFTER COMPLETION;BEFORE COMPLETION")]⟩,
  ⟨"YI SYLLABLE ", [
    (0xa000, "IT;IX;I;IP;IET;IEX;IE;IEP;AT;AX;A;AP;UOX;UO;UOP;OT;OX;O;OP;EX;E;WU;BIT;BIX;BI;BIP"),
    (0xa01a, "BIET;BIEX;BIE;BIEP;BAT;BAX;BA;BAP;BUOX;BUO;BUOP;BOT;BOX;BO;BOP;BEX;BE;BEP;BUT;BUX"),
    (0xa02e, "BU;BUP;BURX;BUR;BYT;BYX;BY;BYP;BYRX;BYR;PIT;PIX;PI;PIP;PIEX;PIE;PIEP;PAT;PAX;PA"),
    (0xa042, "PAP;PUOX;PUO;PUOP;POT;POX;PO;POP;PUT;PUX;PU;PUP;PURX;PUR;PYT;PYX;PY;PYP;PYRX;PYR"),
    (0xa056, "BBIT;BBIX;BBI;BBIP;BBIET;BBIEX;BBIE;BBIEP;BBAT;BBAX;BBA;BBAP;BBUOX;BBUO;BBUOP"),
    (0xa065, "BBOT;BBOX;BBO;BBOP;BBEX;BBE;BBEP;BBUT;BBUX;BBU;BBUP;BBURX;BBUR;BBYT;BBYX;BBY;BBYP"),
    (0xa076, "NBIT;NBIX;NBI;NBIP;NBIEX;NBIE;NBIEP;NBAT;NBAX;NBA;NBAP;NBOT;NBOX;NBO;NBOP;NBUT"),
    (0xa086, "NBUX;NBU;NBUP;NBURX;NBUR;NBYT;NBYX;NBY;NBYP;NBYRX;NBYR;HMIT;HMIX;HMI;HMIP;HMIEX"),
    (0xa096, "HMIE;HMIEP;HMAT;HMAX;HMA;HMAP;HMUOX;HMUO;HMUOP;HMOT;HMOX;HMO;HMOP;HMUT;HMUX;HMU"),
    (0xa0a6, "HMUP;HMURX;HMUR;HMYX;HMY;HMYP;HMYRX;HMYR;MIT;MIX;MI;MIP;MIEX;MIE;MIEP;MAT;MAX;MA"),
    (0xa0b8, "MAP;MUOT;MUOX;MUO;MUOP;MOT;MOX;MO;MOP;MEX;ME;MUT;MUX;MU;MUP;MURX;MUR;MYT;MYX;MY"),
    (0xa0cc, "MYP;FIT;FIX;FI;FIP;FAT;FAX;FA;FAP;FOX;FO;FOP;FUT;FUX;FU;FUP;FURX;FUR;FYT;FYX;FY"),
    (0xa0e1, "FYP;VIT;VIX;VI;VIP;VIET;VIEX;VIE;VIEP;VAT;VAX;VA;VAP;VOT;VOX;VO;VOP;VEX;VEP;VUT"),
    (0xa0f5, "VUX;VU;VUP;VURX;VUR;VYT;VYX;VY;VYP;VYRX;VYR;DIT;DIX;DI;DIP;DIEX;DIE;DIEP;DAT;DAX"),
    (0xa109, "DA;DAP;DUOX;DUO;DOT;DOX;DO;DOP;DEX;DE;DEP;DUT;DUX;DU;DUP;DURX;DUR;TIT;TIX;TI;TIP"),
    (0xa11e, "TIEX;TIE;TIEP;TAT;TAX;TA;TAP;TUOT;TUOX;TUO;TUOP;TOT;TOX;TO;TOP;TEX;TE;TEP;TUT;TUX"),
    (0xa132, "TU;TUP;TURX;TUR;DDIT;DDIX;DDI;DDIP;DDIEX;DDIE;DDIEP;DDAT;DDAX;DDA;DDAP;DDUOX;DDUO"),
    (0xa143, "DDUOP;DDOT;DDOX;DDO;DDOP;DDEX;DDE;DDEP;DDUT;DDUX;DDU;DDUP;DDURX;DDUR;NDIT;NDIX"),
    (0xa153, "NDI;NDIP;NDIEX;NDIE;NDAT;NDAX;NDA;NDAP;NDOT;NDOX;NDO;NDOP;NDEX;NDE;NDEP;NDUT;NDUX"),
    (0xa164, "NDU;NDUP;NDURX;NDUR;HNIT;HNIX;HNI;HNIP;HNIET;HNIEX;HNIE;HNIEP;HNAT;HNAX;HNA;HNAP"),
    (0xa174, "HNUOX;HNUO;HNOT;HNOX;HNOP;HNEX;HNE;HNEP;HNUT;NIT;NIX;NI;NIP;NIEX;NIE;NIEP;NAX;NA"),
    (0xa186, "NAP;NUOX;NUO;NUOP;NOT;NOX;NO;NOP;NEX;NE;NEP;NUT;NUX;NU;NUP;NURX;NUR;HLIT;HLIX;HLI"),
    (0xa19a, "HLIP;HLIEX;HLIE;HLIEP;HLAT;HLAX;HLA;HLAP;HLUOX;HLUO;HLUOP;HLOX;HLO;HLOP;HLEX;HLE"),
    (0xa1aa, "HLEP;HLUT;HLUX;HLU;HLUP;HLURX;HLUR;HLYT;HLYX;HLY;HLYP;HLYRX;HLYR;LIT;LIX;LI;LIP"),
    (0xa1bb, "LIET;LIEX;LIE;LIEP;LAT;LAX;LA;LAP;LUOT;LUOX;LUO;LUOP;LOT;LOX;LO;LOP;LEX;LE;LEP"),
    (0xa1ce, "LUT;LUX;LU;LUP;LURX;LUR;LYT;LYX;LY;LYP;LYRX;LYR;GIT;GIX;GI;GIP;GIET;GIEX;GIE;GIEP"),
    (0xa1e2, "GAT;GAX;GA;GAP;GUOT;GUOX;GUO;GUOP;GOT;GOX;GO;GOP;GET;GEX;GE;GEP;GUT;GUX;GU;GUP"),
    (0xa1f6, "GURX;GUR;KIT;KIX;KI;KIP;KIEX;KIE;KIEP;KAT;KAX;KA;KAP;KUOX;KUO;KUOP;KOT;KOX;KO;KOP"),
    (0xa20a, "KET;KEX;KE;KEP;KUT;KUX;KU;KUP;KURX;KUR;GGIT;GGIX;GGI;GGIEX;GGIE;GGIEP;GGAT;GGAX"),
    (0xa21c, "GGA;GGAP;GGUOT;GGUOX;GGUO;GGUOP;GGOT;GGOX;GGO;GGOP;GGET;GGEX;GGE;GGEP;GGUT;GGUX"),
    (0xa22c, "GGU;GGUP;GGURX;GGUR;MGIEX;MGIE;MGAT;MGAX;MGA;MGAP;MGUOX;MGUO;MGUOP;MGOT;MGOX;MGO"),
    (0xa23c, "MGOP;MGEX;MGE;MGEP;MGUT;MGUX;MGU;MGUP;MGURX;MGUR;HXIT;HXIX;HXI;HXIP;HXIET;HXIEX"),
    (0xa24c, "HXIE;HXIEP;HXAT;HXAX;HXA;HXAP;HXUOT;HXUOX;HXUO;HXUOP;HXOT;HXOX;HXO;HXOP;HXEX;HXE"),
    (0xa25c, "HXEP;NGIEX;NGIE;NGIEP;NGAT;NGAX;NGA;NGAP;NGUOT;NGUOX;NGUO;NGOT;NGOX;NGO;NGOP;NGEX"),
    (0xa26c, "NGE;NGEP;HIT;HIEX;HIE;HAT;HAX;HA;HAP;HUOT;HUOX;HUO;HUOP;HOT;HOX;HO;HOP;HEX;HE;HEP"),
    (0xa280, "WAT;WAX;WA;WAP;WUOX;WUO;WUOP;WOX;WO;WOP;WEX;WE;WEP;ZIT;ZIX;ZI;ZIP;ZIEX;ZIE;ZIEP"),
    (0xa294, "ZAT;ZAX;ZA;ZAP;ZUOX;ZUO;ZUOP;ZOT;ZOX;ZO;ZOP;ZEX;ZE;ZEP;ZUT;ZUX;ZU;ZUP;ZURX;ZUR"),
    (0xa2a8, "ZYT;ZYX;ZY;ZYP;ZYRX;ZYR;CIT;CIX;CI;CIP;CIET;CIEX;CIE;CIEP;CAT;CAX;CA;CAP;CUOX;CUO"),
    (0xa2bc, "CUOP;COT;COX;CO;COP;CEX;CE;CEP;CUT;CUX;CU;CUP;CURX;CUR;CYT;CYX;CY;CYP;CYRX;CYR"),
    (0xa2d0, "ZZIT;ZZIX;ZZI;ZZIP;ZZIET;ZZIEX;ZZIE;ZZIEP;ZZAT;ZZAX;ZZA;ZZAP;ZZOX;ZZO;ZZOP;ZZEX"),
    (0xa2e0, "ZZE;ZZEP;ZZUX;ZZU;ZZUP;ZZURX;ZZUR;ZZYT;ZZYX;ZZY;ZZYP;ZZYRX;ZZYR;NZIT;NZIX;NZI"),
    (0xa2f0, "NZIP;NZIEX;NZIE;NZIEP;NZAT;NZAX;NZA;NZAP;NZUOX;NZUO;NZOX;NZOP;NZEX;NZE;NZUX;NZU"),
    (0xa300, "NZUP;NZURX;NZUR;NZYT;NZYX;NZY;NZYP;NZYRX;NZYR;SIT;SIX;SI;SIP;SIEX;SIE;SIEP;SAT"),
    (0xa311, "SAX;SA;SAP;SUOX;SUO;SUOP;SOT;SOX;SO;SOP;SEX;SE;SEP;SUT;SUX;SU;SUP;SURX;SUR;SYT"),
    (0xa325, "SYX;SY;SYP;SYRX;SYR;SSIT;SSIX;SSI;SSIP;SSIEX;SSIE;SSIEP;SSAT;SSAX;SSA;SSAP;SSOT"),
    (0xa336, "SSOX;SSO;SSOP;SSEX;SSE;SSEP;SSUT;SSUX;SSU;SSUP;SSYT;SSYX;SSY;SSYP;SSYRX;SSYR;ZHAT"),
    (0xa347, "ZHAX;ZHA;ZHAP;ZHUOX;ZHUO;ZHUOP;ZHOT;ZHOX;ZHO;ZHOP;ZHET;ZHEX;ZHE;ZHEP;ZHUT;ZHUX"),
    (0xa357, "ZHU;ZHUP;ZHURX;ZHUR;ZHYT;ZHYX;ZHY;ZHYP;ZHYRX;ZHYR;CHAT;CHAX;CHA;CHAP;CHUOT;CHUOX"),
    (0xa367, "CHUO;CHUOP;CHOT;CHOX;CHO;CHOP;CHET;CHEX;CHE;CHEP;CHUX;CHU;CHUP;CHURX;CHUR;CHYT"),
    (0xa377, "CHYX;CHY;CHYP;CHYRX;CHYR;RRAX;RRA;RRUOX;RRUO;RROT;RROX;RRO;RROP;RRET;RREX;RRE"),
    (0xa387, "RREP;RRUT;RRUX;RRU;RRUP;RRURX;RRUR;RRYT;RRYX;RRY;RRYP;RRYRX;RRYR;NRAT;NRAX;NRA"),
    (0xa397, "NRAP;NROX;NRO;NROP;NRET;NREX;NRE;NREP;NRUT;NRUX;NRU;NRUP;NRURX;NRUR;NRYT;NRYX;NRY"),
    (0xa3a8, "NRYP;NRYRX;NRYR;SHAT;SHAX;SHA;SHAP;SHUOX;SHUO;SHUOP;SHOT;SHOX;SHO;SHOP;SHET;SHEX"),
    (0xa3b8, "SHE;SHEP;SHUT;SHUX;SHU;SHUP;SHURX;SHUR;SHYT;SHYX;SHY;SHYP;SHYRX;SHYR;RAT;RAX;RA"),
    (0xa3c9, "RAP;RUOX;RUO;RUOP;ROT;ROX;RO;ROP;REX;RE;REP;RUT;RUX;RU;RUP;RURX;RUR;RYT;RYX;RY"),
    (0xa3dd, "RYP;RYRX;RYR;JIT;JIX;JI;JIP;JIET;JIEX;JIE;JIEP;JUOT;JUOX;JUO;JUOP;JOT;JOX;JO;JOP"),
    (0xa3f0, "JUT;JUX;JU;JUP;JURX;JUR;JYT;JYX;JY;JYP;JYRX;JYR;QIT;QIX;QI;QIP;QIET;QIEX;QIE;QIEP"),
    (0xa404, "QUOT;QUOX;QUO;QUOP;QOT;QOX;QO;QOP;QUT;QUX;QU;QUP;QURX;QUR;QYT;QYX;QY;QYP;QYRX;QYR"),
    (0xa418, "JJIT;JJIX;JJI;JJIP;JJIET;JJIEX;JJIE;JJIEP;JJUOX;JJUO;JJUOP;JJOT;JJOX;JJO;JJOP"),
    (0xa427, "JJUT;JJUX;JJU;JJUP;JJURX;JJUR;JJYT;JJYX;JJY;JJYP;NJIT;NJIX;NJI;NJIP;NJIET;NJIEX"),
    (0xa437, "NJIE;NJIEP;NJUOX;NJUO;NJOT;NJOX;NJO;NJOP;NJUX;NJU;NJUP;NJURX;NJUR;NJYT;NJYX;NJY"),
    (0xa447, "NJYP;NJYRX;NJYR;NYIT;NYIX;NYI;NYIP;NYIET;NYIEX;NYIE;NYIEP;NYUOX;NYUO;NYUOP;NYOT"),
    (0xa456, "NYOX;NYO;NYOP;NYUT;NYUX;NYU;NYUP;XIT;XIX;XI;XIP;XIET;XIEX;XIE;XIEP;XUOX;XUO;XOT"),
    (0xa468, "XOX;XO;XOP;XYT;XYX;XY;XYP;XYRX;XYR;YIT;YIX;YI;YIP;YIET;YIEX;YIE;YIEP;YUOT;YUOX"),
    (0xa47b, "YUO;YUOP;YOT;YOX;YO;YOP;YUT;YUX;YU;YUP;YURX;YUR;YYT;YYX;YY;YYP;YYRX;YYR")]⟩,
  ⟨"YI RADICAL ", [
    (0xa490, "QOT;LI;KIT;NYIP;CYP;SSI;GGOP;GEP;MI;HXIT;LYR;BBUT;MOP;YO;PUT;HXUO;TAT;GA;ZUP;CYT"),
    (0xa4a4, "DDUR;BUR;GGUO;NYOP;TU;OP;JJUT;ZOT;PYT;HMO;YIT;VUR;SHY;VEP;ZA;JO;NZUP;JJY;GOT;JJIE"),
    (0xa4b8, "WO;DU;SHUR;LIE;CY;CUOP;CIP;HXOP;SHAT;ZUR;SHOP;CHE;ZZIET;NBIE;KE")]⟩,
  ⟨"LISU LETTER ", [
    (0xa4d0, "BA;PA;PHA;DA;TA;THA;GA;KA;KHA;JA;CA;CHA;DZA;TSA;TSHA;MA;NA;LA;SA;ZHA;ZA;NGA;HA;XA"),
    (0xa4e8, "HHA;FA;WA;SHA;YA;GHA;A;AE;E;EU;I;O;U;UE;UH;OE")]⟩,
  ⟨"LISU LETTER TONE ", [(0xa4f8, "MYA TI;NA PO;MYA CYA;MYA BO;MYA NA;MYA JEU")]⟩,
  ⟨"LISU ", [(0xa4fe, "PUNCTUATION COMMA;PUNCTUATION FULL STOP")]⟩,
  ⟨"VAI SYLLABLE ", [
    (0xa500, "EE;EEN;HEE;WEE;WEEN;PEE;BHEE;BEE;MBEE;KPEE;MGBEE;GBEE;FEE;VEE;TEE;THEE;DHEE;DHHEE"),
    (0xa512, "LEE;REE;DEE;NDEE;SEE;SHEE;ZEE;ZHEE;CEE;JEE;NJEE;YEE;KEE;NGGEE;GEE;MEE;NEE;NYEE;I"),
    (0xa525, "IN;HI;HIN;WI;WIN;PI;BHI;BI;MBI;KPI;MGBI;GBI;FI;VI;TI;THI;DHI;DHHI;LI;RI;DI;NDI;SI"),
    (0xa53c, "SHI;ZI;ZHI;CI;JI;NJI;YI;KI;NGGI;GI;MI;NI;NYI;A;AN;NGAN;HA;HAN;WA;WAN;PA;BHA;BA"),
    (0xa553, "MBA;KPA;KPAN;MGBA;GBA;FA;VA;TA;THA;DHA;DHHA;LA;RA;DA;NDA;SA;SHA;ZA;ZHA;CA;JA;NJA"),
    (0xa569, "YA;KA;KAN;NGGA;GA;MA;NA;NYA;OO;OON;HOO;WOO;WOON;POO;BHOO;BOO;MBOO;KPOO;MGBOO;GBOO"),
    (0xa57d, "FOO;VOO;TOO;THOO;DHOO;DHHOO;LOO;ROO;DOO;NDOO;SOO;SHOO;ZOO;ZHOO;COO;JOO;NJOO;YOO"),
    (0xa58f, "KOO;NGGOO;GOO;MOO;NOO;NYOO;U;UN;HU;HUN;WU;WUN;PU;BHU;BU;MBU;KPU;MGBU;GBU;FU;VU;TU"),
    (0xa5a5, "THU;DHU;DHHU;LU;RU;DU;NDU;SU;SHU;ZU;ZHU;CU;JU;NJU;YU;KU;NGGU;GU;MU;NU;NYU;O;ON"),
    (0xa5bc, "NGON;HO;HON;WO;WON;PO;BHO;BO;MBO;KPO;MGBO;GBO;GBON;FO;VO;TO;THO;DHO;DHHO;LO;RO;DO"),
    (0xa5d2, "NDO;SO;SHO;ZO;ZHO;CO;JO;NJO;YO;KO;NGGO;GO;MO;NO;NYO;E;EN;NGEN;HE;HEN;WE;WEN;PE"),
    (0xa5e9, "BHE;BE;MBE;KPE;KPEN;MGBE;GBE;GBEN;FE;VE;TE;THE;DHE;DHHE;LE;RE;DE;NDE;SE;SHE;ZE"),
    (0xa5fe, "ZHE;CE;JE;NJE;YE;KE;NGGE;NGGEN;GE;GEN;ME;NE;NYE;NG;LENGTHENER;;;;NDOLE FA"),
    (0xa611, "NDOLE KA;NDOLE SOO"), (0xa62a, "NDOLE MA;NDOLE DO")]⟩,
  ⟨"VAI ", [(0xa60d, "COMMA;FULL STOP;QUESTION MARK")]⟩,
  ⟨"VAI SYMBOL ", [(0xa613, "FEENG;KEENG;TING;NII;BANG;FAA;TAA;DANG;DOONG;KUNG;TONG;DO-O;JONG")]⟩,
  ⟨"VAI DIGIT ", [(0xa620, "ZERO;ONE;TWO;THREE;FOUR;FIVE;SIX;SEVEN;EIGHT;NINE")]⟩,
  ⟨"CYRILLIC CAPITAL LETTER ", [
    (0xa640, "ZEMLYA;;DZELO;;REVERSED DZE;;IOTA;;DJERV;;MONOGRAPH UK;;BROAD OMEGA;;NEUTRAL YER"),
    (0xa650, "YERU WITH BACK YER;;IOTIFIED YAT;;REVERSED YU;;IOTIFIED A;;CLOSED LITTLE YUS"),
    (0xa65a, "BLENDED YUS;;IOTIFIED CLOSED LITTLE YUS;;YN;;REVERSED TSE;;SOFT DE;;SOFT EL"),
    (0xa666, "SOFT EM;;MONOCULAR O;;BINOCULAR O;;DOUBLE MONOCULAR O"), (0xa680, "DWE;;DZWE"),
    (0xa684, "ZHWE;;CCHE;;DZZE;;TE WITH MIDDLE HOOK;;TWE;;TSWE;;TSSE;;TCHE;;HWE;;SHWE;;DOUBLE O"),
    (0xa69a, "CROSSED O")]⟩,
  ⟨"CYRILLIC SMALL LETTER ", [
    (0xa641, "ZEMLYA;;DZELO;;REVERSED DZE;;IOTA;;DJERV;;MONOGRAPH UK;;BROAD OMEGA;;NEUTRAL YER"),
    (0xa651, "YERU WITH BACK YER;;IOTIFIED YAT;;REVERSED YU;;IOTIFIED A;;CLOSED LITTLE YUS"),
    (0xa65b, "BLENDED YUS;;IOTIFIED CLOSED LITTLE YUS;;YN;;REVERSED TSE;;SOFT DE;;SOFT EL"),
    (0xa667, "SOFT EM;;MONOCULAR O;;BINOCULAR O;;DOUBLE MONOCULAR O"), (0xa681, "DWE;;DZWE"),
    (0xa685, "ZHWE;;CCHE;;DZZE;;TE WITH MIDDLE HOOK;;TWE;;TSWE;;TSSE;;TCHE;;HWE;;SHWE;;DOUBLE O"),
    (0xa69b, "CROSSED O")]⟩,
  ⟨"CYRILLIC ", [(0xa66e, "LETTER MULTIOCULAR O"), (0xa67e, "KAVYKA;PAYEROK")]⟩,
  ⟨"COMBINING CYRILLIC ", [
    (0xa66f, "VZMET;TEN MILLIONS SIGN;HUNDRED MILLIONS SIGN;THOUSAND MILLIONS SIGN"),
    (0xa67c, "KAVYKA;PAYEROK"), (0xfe2e, "TITLO LEFT HALF;TITLO RIGHT HALF")]⟩,
  ⟨"MODIFIER LETTER ", [
    (0xa69c, "CYRILLIC HARD SIGN;CYRILLIC SOFT SIGN"), (0xa708, "EXTRA-HIGH DOTTED TONE BAR"),
    (0xa709, "HIGH DOTTED TONE BAR;MID DOTTED TONE BAR;LOW DOTTED TONE BAR"),
    (0xa70c, "EXTRA-LOW DOTTED TONE BAR;EXTRA-HIGH DOTTED LEFT-STEM TONE BAR"),
    (0xa70e, "HIGH DOTTED LEFT-STEM TONE BAR;MID DOTTED LEFT-STEM TONE BAR"),
    (0xa710, "LOW DOTTED LEFT-STEM TONE BAR;EXTRA-LOW DOTTED LEFT-STEM TONE BAR"),
    (0xa712, "EXTRA-HIGH LEFT-STEM TONE BAR;HIGH LEFT-STEM TONE BAR;MID LEFT-STEM TONE BAR"),
    (0xa715, "LOW LEFT-STEM TONE BAR;EXTRA-LOW LEFT-STEM TONE BAR;DOT VERTICAL BAR;DOT SLASH"),
    (0xa719, "DOT HORIZONTAL BAR;LOWER RIGHT CORNER ANGLE;RAISED UP ARROW;RAISED DOWN ARROW"),
    (0xa71d, "RAISED EXCLAMATION MARK;RAISED INVERTED EXCLAMATION MARK"),
    (0xa71f, "LOW INVERTED EXCLAMATION MARK;STRESS AND HIGH TONE;STRESS AND LOW TONE"),
    (0xa770, "US"), (0xa788, "LOW CIRCUMFLEX ACCENT;COLON;SHORT EQUALS SIGN"),
    (0xab6a, "LEFT TACK;RIGHT TACK")]⟩,
  ⟨"BAMUM LETTER ", [
    (0xa6a0, "A;KA;U;KU;EE;REE;TAE;O;NYI;I;LA;PA;RII;RIEE;LEEEE;MEEEE;TAA;NDAA;NJAEM;M;SUU;MU"),
    (0xa6b6, "SHII;SI;SHEUX;SEUX;KYEE;KET;NUAE;NU;NJUAE;YOQ;SHU;YUQ;YA;NSHA;KEUX;PEUX;NJEE;NTEE"),
    (0xa6c8, "PUE;WUE;PEE;FEE;RU;LU;MI;NI;REUX;RAE;KEN;NGKWAEN;NGGA;NGA;SHO;PUAE;FU;FOM;WA;NA"),
    (0xa6dc, "LI;PI;LOQ;KO;MBEN;REN;MEN;MA;TI;KI;MO;MBAA;TET;KPA;TEN;NTUU;SAMBA;FAAMAE;KOVUU"),
    (0xa6ef, "KOGHOM")]⟩,
  ⟨"BAMUM ", [
    (0xa6f0, "COMBINING MARK KOQNDON;COMBINING MARK TUKWENTIS;NJAEMLI;FULL STOP;COLON;COMMA"),
    (0xa6f6, "SEMICOLON;QUESTION MARK")]⟩,
  ⟨"MODIFIER LETTER CHINESE ", [
    (0xa700, "TONE YIN PING;TONE YANG PING;TONE YIN SHANG;TONE YANG SHANG;TONE YIN QU"),
    (0xa705, "TONE YANG QU;TONE YIN RU;TONE YANG RU")]⟩,
  ⟨"LATIN CAPITAL LETTER INSULAR ", [(0xa779, "D;;F;;G;;;;;R;;S;;T")]⟩,
  ⟨"LATIN SMALL LETTER INSULAR ", [(0xa77a, "D;;F;;;;;;;R;;S;;T")]⟩,
  ⟨"LATIN LETTER ", [(0xa78f, "SINOLOGICAL DOT")]⟩,
  ⟨"LATIN EPIGRAPHIC LETTER ", [
    (0xa7f7, "SIDEWAYS I;;;;REVERSED F;REVERSED P;INVERTED M;I LONGA;ARCHAIC M")]⟩,
  ⟨"MODIFIER LETTER SMALL ", [
    (0xa7f9, "LIGATURE OE"), (0xab5c, "HENG;L WITH INVERTED LAZY S;L WITH MIDDLE TILDE"),
    (0xab5f, "U WITH LEFT HOOK"), (0xab69, "TURNED W")]⟩,
  ⟨"SYLOTI NAGRI LETTER ", [
    (0xa800, "A;I;;U;E;O;;KO;KHO;GO;GHO;;CO;CHO;JO;JHO;TTO;TTHO;DDO;DDHO;TO;THO;DO;DHO;NO;PO"),
    (0xa81a, "PHO;BO;BHO;MO;RO;LO;RRO;SO;HO")]⟩,
  ⟨"SYLOTI NAGRI ", [
    (0xa802, "SIGN DVISVARA;;;;SIGN HASANTA;;;;;SIGN ANUSVARA"), (0xa823, "VOWEL SIGN A"),
    (0xa824, "VOWEL SIGN I;VOWEL SIGN U;VOWEL SIGN E;VOWEL SIGN OO;POETRY MARK-1;POETRY MARK-2"),
    (0xa82a, "POETRY MARK-3;POETRY MARK-4;SIGN ALTERNATE HASANTA")]⟩,
  ⟨"NORTH INDIC FRACTION ", [
    (0xa830, "ONE QUARTER;ONE HALF;THREE QUARTERS;ONE SIXTEENTH;ONE EIGHTH;THREE SIXTEENTHS")]⟩,
  ⟨"NORTH INDIC ", [(0xa836, "QUARTER MARK;PLACEHOLDER MARK;RUPEE MARK;QUANTITY MARK")]⟩,
  ⟨"PHAGS-PA LETTER ", [
    (0xa840, "KA;KHA;GA;NGA;CA;CHA;JA;NYA;TA;THA;DA;NA;PA;PHA;BA;MA;TSA;TSHA;DZA;WA;ZHA;ZA"),
    (0xa856, "SMALL A;YA;RA;LA;SHA;SA;HA;A;I;U;E;O;QA;XA;FA;GGA;EE;;;TTA;TTHA;DDA;NNA"),
    (0xa86d, "ALTERNATE YA;VOICELESS SHA;VOICED HA;ASPIRATED FA;;;CANDRABINDU")]⟩,
  ⟨"PHAGS-PA ", [
    (0xa867, "SUBJOINED LETTER WA;SUBJOINED LETTER YA"), (0xa871, "SUBJOINED LETTER RA"),
    (0xa872, "SUPERFIXED LETTER RA;;SINGLE HEAD MARK;DOUBLE HEAD MARK;MARK SHAD"),
    (0xa877, "MARK DOUBLE SHAD")]⟩,
  ⟨"SAURASHTRA ", [
    (0xa880, "SIGN ANUSVARA;SIGN VISARGA"), (0xa8b4, "CONSONANT SIGN HAARU"),
    (0xa8c4, "SIGN VIRAMA;SIGN CANDRABINDU"), (0xa8ce, "DANDA;DOUBLE DANDA")]⟩,
  ⟨"SAURASHTRA LETTER ", [
    (0xa882, "A;AA;I;II;U;UU;VOCALIC R;VOCALIC RR;VOCALIC L;VOCALIC LL;E;EE;AI;O;OO;AU;KA;KHA"),
    (0xa894, "GA;GHA;NGA;CA;CHA;JA;JHA;NYA;TTA;TTHA;DDA;DDHA;NNA;TA;THA;DA;DHA;NA;PA;PHA;BA;BHA"),
    (0xa8aa, "MA;YA;RA;LA;VA;SHA;SSA;SA;HA;LLA")]⟩,
  ⟨"SAURASHTRA VOWEL SIGN ", [
    (0xa8b5, "AA;I;II;U;UU;VOCALIC R;VOCALIC RR;VOCALIC L;VOCALIC LL;E;EE;AI;O;OO;AU")]⟩,
  ⟨"SAURASHTRA DIGIT ", [(0xa8d0, "ZERO;ONE;TWO;THREE;FOUR;FIVE;SIX;SEVEN;EIGHT;NINE")]⟩,
  ⟨"COMBINING DEVANAGARI DIGIT ", [(0xa8e0, "ZERO;ONE;TWO;THREE;FOUR;FIVE;SIX;SEVEN;EIGHT;NINE")]⟩,
  ⟨"COMBINING DEVANAGARI LETTER ", [(0xa8ea, "A;U;KA;NA;PA;RA;VI")]⟩,
  ⟨"COMBINING DEVANAGARI ", [(0xa8f1, "SIGN AVAGRAHA")]⟩,
  ⟨"DEVANAGARI SIGN ", [
    (0xa8f2, "SPACING CANDRABINDU;;DOUBLE CANDRABINDU VIRAMA;;;;PUSHPIKA;;;;SIDDHAM")]⟩,
  ⟨"DEVANAGARI SIGN CANDRABINDU ", [(0xa8f3, "VIRAMA;;TWO;THREE;AVAGRAHA")]⟩,
  ⟨"DEVANAGARI ", [(0xa8f9, "GAP FILLER;CARET;HEADSTROKE;;JAIN OM;LETTER AY;VOWEL SIGN AY")]⟩,
  ⟨"KAYAH LI DIGIT ", [(0xa900, "ZERO;ONE;TWO;THREE;FOUR;FIVE;SIX;SEVEN;EIGHT;NINE")]⟩,
  ⟨"KAYAH LI LETTER ", [
    (0xa90a, "KA;KHA;GA;NGA;SA;SHA;ZA;NYA;TA;HTA;NA;PA;PHA;MA;DA;BA;RA;YA;LA;WA;THA;HA;VA;CA;A"),
    (0xa923, "OE;I;OO")]⟩,
  ⟨"KAYAH LI VOWEL ", [(0xa926, "UE;E;U;EE;O")]⟩,
  ⟨"KAYAH LI ", [(0xa92b, "TONE PLOPHU;TONE CALYA;TONE CALYA PLOPHU;SIGN CWI;SIGN SHYA")]⟩,
  ⟨"REJANG LETTER ", [
    (0xa930, "KA;GA;NGA;TA;DA;NA;PA;BA;MA;CA;JA;NYA;SA;RA;LA;YA;WA;HA;MBA;NGGA;NDA;NYJA;A")]⟩,
  ⟨"REJANG VOWEL SIGN ", [(0xa947, "I;U;E;AI;O;AU;EU;EA")]⟩,
  ⟨"REJANG CONSONANT ", [(0xa94f, "SIGN NG;SIGN N;SIGN R;SIGN H")]⟩,
  ⟨"REJANG ", [(0xa953, "VIRAMA"), (0xa95f, "SECTION MARK")]⟩,
  ⟨"HANGUL CHOSEONG ", [
    (0xa960, "TIKEUT-MIEUM;TIKEUT-PIEUP;TIKEUT-SIOS;TIKEUT-CIEUC;RIEUL-KIYEOK;RIEUL-SSANGKIYEOK"),
    (0xa966, "RIEUL-TIKEUT;RIEUL-SSANGTIKEUT;RIEUL-MIEUM;RIEUL-PIEUP;RIEUL-SSANGPIEUP"),
    (0xa96b, "RIEUL-KAPYEOUNPIEUP;RIEUL-SIOS;RIEUL-CIEUC;RIEUL-KHIEUKH;MIEUM-KIYEOK"),
    (0xa970, "MIEUM-TIKEUT;MIEUM-SIOS;PIEUP-SIOS-THIEUTH;PIEUP-KHIEUKH;PIEUP-HIEUH"),
    (0xa975, "SSANGSIOS-PIEUP;IEUNG-RIEUL;IEUNG-HIEUH;SSANGCIEUC-HIEUH;SSANGTHIEUTH"),
    (0xa97a, "PHIEUPH-HIEUH;HIEUH-SIOS;SSANGYEORINHIEUH")]⟩,
  ⟨"JAVANESE ", [
    (0xa980, "SIGN PANYANGGA;SIGN CECAK;SIGN LAYAR;SIGN WIGNYAN"), (0xa9b3, "SIGN CECAK TELU"),
    (0xa9bd, "CONSONANT SIGN KERET;CONSONANT SIGN PENGKAL;CONSONANT SIGN CAKRA;PANGKON"),
    (0xa9c1, "LEFT RERENGGAN;RIGHT RERENGGAN"), (0xa9cd, "TURNED PADA PISELEH;;PANGRANGKEP")]⟩,
  ⟨"JAVANESE LETTER ", [
    (0xa984, "A;I KAWI;I;II;U;PA CEREK;NGA LELET;NGA LELET RASWADI;E;AI;O;KA;KA SASAK;KA MURDA"),
    (0xa992, "GA;GA MURDA;NGA;CA;CA MURDA;JA;NYA MURDA;JA MAHAPRANA;NYA;TTA;TTA MAHAPRANA;DDA"),
    (0xa99e, "DDA MAHAPRANA;NA MURDA;TA;TA MURDA;DA;DA MAHAPRANA;NA;PA;PA MURDA;BA;BA MURDA;MA"),
    (0xa9aa, "YA;RA;RA AGUNG;LA;WA;SA MURDA;SA MAHAPRANA;SA;HA")]⟩,
  ⟨"JAVANESE VOWEL SIGN ", [
    (0xa9b4, "TARUNG;TOLONG;WULU;WULU MELIK;SUKU;SUKU MENDUT;TALING;DIRGA MURE;PEPET")]⟩,
  ⟨"JAVANESE PADA ", [
    (0xa9c3, "ANDAP;MADYA;LUHUR;WINDU;PANGKAT;LINGSA;LUNGSI;ADEG;ADEG ADEG;PISELEH"),
    (0xa9de, "TIRTA TUMETES;ISEN-ISEN")]⟩,
  ⟨"JAVANESE DIGIT ", [(0xa9d0, "ZERO;ONE;TWO;THREE;FOUR;FIVE;SIX;SEVEN;EIGHT;NINE")]⟩,
  ⟨"MYANMAR LETTER ", [
    (0xa9e0, "SHAN GHA;SHAN CHA;SHAN JHA;SHAN NNA;SHAN BHA"), (0xaa7a, "AITON RA"),
    (0xaa7e, "SHWE PALAUNG CHA;SHWE PALAUNG SHA")]⟩,
  ⟨"MYANMAR ", [
    (0xa9e5, "SIGN SHAN SAW;MODIFIER LETTER SHAN REDUPLICATION"),
    (0xaa70, "MODIFIER LETTER KHAMTI REDUPLICATION;;;;LOGOGRAM KHAMTI OAY;LOGOGRAM KHAMTI QN"),
    (0xaa76, "LOGOGRAM KHAMTI HM;SYMBOL AITON EXCLAMATION;SYMBOL AITON ONE;SYMBOL AITON TWO"),
    (0xaa7b, "SIGN PAO KAREN TONE;SIGN TAI LAING TONE-2;SIGN TAI LAING TONE-5")]⟩,
  ⟨"MYANMAR LETTER TAI LAING ", [
    (0xa9e7, "NYA;FA;GA;GHA;JA;JHA;DDA;DDHA;NNA"), (0xa9fa, "LLA;DA;DHA;BA;BHA")]⟩,
  ⟨"MYANMAR TAI LAING DIGIT ", [(0xa9f0, "ZERO;ONE;TWO;THREE;FOUR;FIVE;SIX;SEVEN;EIGHT;NINE")]⟩,
  ⟨"CHAM LETTER ", [
    (0xaa00, "A;I;U;E;AI;O;KA;KHA;GA;GHA;NGUE;NGA;CHA;CHHA;JA;JHA;NHUE;NHA;NHJA;TA;THA;DA;DHA"),
    (0xaa17, "NUE;NA;DDA;PA;PPA;PHA;BA;BHA;MUE;MA;BBA;YA;RA;LA;VA;SSA;SA;HA")]⟩,
  ⟨"CHAM VOWEL SIGN ", [(0xaa29, "AA;I;II;EI;U;OE;O;AI;AU;UE")]⟩,
  ⟨"CHAM CONSONANT SIGN ", [
    (0xaa33, "YA;RA;LA;WA"), (0xaa43, "FINAL NG"), (0xaa4c, "FINAL M;FINAL H")]⟩,
  ⟨"CHAM LETTER FINAL ", [(0xaa40, "K;G;NG;;CH;T;N;P;Y;R;L;SS")]⟩,
  ⟨"CHAM DIGIT ", [(0xaa50, "ZERO;ONE;TWO;THREE;FOUR;FIVE;SIX;SEVEN;EIGHT;NINE")]⟩,
  ⟨"CHAM PUNCTUATION ", [(0xaa5c, "SPIRAL;DANDA;DOUBLE DANDA;TRIPLE DANDA")]⟩,
  ⟨"MYANMAR LETTER KHAMTI ", [
    (0xaa60, "GA;CA;CHA;JA;JHA;NYA;TTA;TTHA;DDA;DDHA;DHA;NA;SA;HA;HHA;FA;;XA;ZA;RA")]⟩,
  ⟨"TAI VIET LETTER LOW ", [
    (0xaa80, "KO;;KHO;;KHHO;;GO;;NGO;;CO;;CHO;;SO;;NYO;;DO;;TO;;THO;;NO;;BO;;PO;;PHO;;FO;;MO"),
    (0xaaa4, "YO;;RO;;LO;;VO;;HO;;O")]⟩,
  ⟨"TAI VIET LETTER HIGH ", [
    (0xaa81, "KO;;KHO;;KHHO;;GO;;NGO;;CO;;CHO;;SO;;NYO;;DO;;TO;;THO;;NO;;BO;;PO;;PHO;;FO;;MO"),
    (0xaaa5, "YO;;RO;;LO;;VO;;HO;;O")]⟩,
  ⟨"TAI VIET ", [
    (0xaab0, "MAI KANG;;;;;;;MAI KHIT;;;;;;;;TONE MAI EK;TONE MAI NUENG;TONE MAI THO"),
    (0xaac2, "TONE MAI SONG")]⟩,
  ⟨"TAI VIET VOWEL ", [(0xaab1, "AA;I;UE;U;E;O;;IA;UEA;UA;AUE;AY;AN;AM")]⟩,
  ⟨"TAI VIET SYMBOL ", [(0xaadb, "KON;NUENG;SAM;HO HOI;KOI KOI")]⟩,
  ⟨"MEETEI MAYEK LETTER ", [
    (0xaae0, "E;O;CHA;NYA;TTA;TTHA;DDA;DDHA;NNA;SHA;SSA"), (0xabc0, "KOK;SAM;LAI;MIT;PA;NA;CHIL"),
    (0xabc7, "TIL;KHOU;NGOU;THOU;WAI;YANG;HUK;UN;I;PHAM;ATIYA;GOK;JHAM;RAI;BA;JIL;DIL;GHOU;DHOU"),
    (0xabda, "BHAM;KOK LONSUM;LAI LONSUM;MIT LONSUM;PA LONSUM;NA LONSUM;TIL LONSUM;NGOU LONSUM"),
    (0xabe2, "I LONSUM")]⟩,
  ⟨"MEETEI MAYEK VOWEL SIGN ", [
    (0xaaeb, "II;UU;AAI;AU;AAU;;;;;;VISARGA"), (0xabe3, "ONAP;INAP;ANAP;YENAP;SOUNAP;UNAP"),
    (0xabe9, "CHEINAP;NUNG")]⟩,
  ⟨"MEETEI MAYEK ", [
    (0xaaf0, "CHEIKHAN;AHANG KHUDAM;ANJI;SYLLABLE REPETITION MARK;WORD REPETITION MARK;;VIRAMA"),
    (0xabeb, "CHEIKHEI;LUM IYEK;APUN IYEK")]⟩,
  ⟨"MODIFIER ", [(0xab5b, "BREVE WITH INVERTED BREVE")]⟩,
  ⟨"CHEROKEE SMALL LETTER ", [
    (0xab70, "A;E;I;O;U;V;GA;KA;GE;GI;GO;GU;GV;HA;HE;HI;HO;HU;HV;LA;LE;LI;LO;LU;LV;MA;ME;MI;MO"),
    (0xab8d, "MU;NA;HNA;NAH;NE;NI;NO;NU;NV;QUA;QUE;QUI;QUO;QUU;QUV;SA;S;SE;SI;SO;SU;SV;DA;TA;DE"),
    (0xaba6, "TE;DI;TI;DO;DU;DV;DLA;TLA;TLE;TLI;TLO;TLU;TLV;TSA;TSE;TSI;TSO;TSU;TSV;WA;WE;WI;WO"),
    (0xabbd, "WU;WV;YA")]⟩,
  ⟨"MEETEI MAYEK DIGIT ", [(0xabf0, "ZERO;ONE;TWO;THREE;FOUR;FIVE;SIX;SEVEN;EIGHT;NINE")]⟩,
  ⟨"HANGUL JUNGSEONG ", [
    (0xd7b0, "O-YEO;O-O-I;YO-A;YO-AE;YO-EO;U-YEO;U-I-I;YU-AE;YU-O;EU-A;EU-EO;EU-E;EU-O;I-YA-O"),
    (0xd7be, "I-YAE;I-YEO;I-YE;I-O-I;I-YO;I-YU;I-I;ARAEA-A;ARAEA-E")]⟩,
  ⟨"HANGUL JONGSEONG ", [
    (0xd7cb, "NIEUN-RIEUL;NIEUN-CHIEUCH;SSANGTIKEUT;SSANGTIKEUT-PIEUP;TIKEUT-PIEUP;TIKEUT-SIOS"),
    (0xd7d1, "TIKEUT-SIOS-KIYEOK;TIKEUT-CIEUC;TIKEUT-CHIEUCH;TIKEUT-THIEUTH;RIEUL-SSANGKIYEOK"),
    (0xd7d6, "RIEUL-KIYEOK-HIEUH;SSANGRIEUL-KHIEUKH;RIEUL-MIEUM-HIEUH;RIEUL-PIEUP-TIKEUT"),
    (0xd7da, "RIEUL-PIEUP-PHIEUPH;RIEUL-YESIEUNG;RIEUL-YEORINHIEUH-HIEUH;KAPYEOUNRIEUL"),
    (0xd7de, "MIEUM-NIEUN;MIEUM-SSANGNIEUN;SSANGMIEUM;MIEUM-PIEUP-SIOS;MIEUM-CIEUC;PIEUP-TIKEUT"),
    (0xd7e4, "PIEUP-RIEUL-PHIEUPH;PIEUP-MIEUM;SSANGPIEUP;PIEUP-SIOS-TIKEUT;PIEUP-CIEUC"),
    (0xd7e9, "PIEUP-CHIEUCH;SIOS-MIEUM;SIOS-KAPYEOUNPIEUP;SSANGSIOS-KIYEOK;SSANGSIOS-TIKEUT"),
    (0xd7ee, "SIOS-PANSIOS;SIOS-CIEUC;SIOS-CHIEUCH;SIOS-THIEUTH;SIOS-HIEUH;PANSIOS-PIEUP"),
    (0xd7f4, "PANSIOS-KAPYEOUNPIEUP;YESIEUNG-MIEUM;YESIEUNG-HIEUH;CIEUC-PIEUP;CIEUC-SSANGPIEUP"),
    (0xd7f9, "SSANGCIEUC;PHIEUPH-SIOS;PHIEUPH-THIEUTH")]⟩,
  ⟨"LATIN SMALL LIGATURE ", [(0xfb00, "FF;FI;FL;FFI;FFL;LONG S T;ST")]⟩,
  ⟨"ARMENIAN SMALL LIGATURE ", [(0xfb13, "MEN NOW;MEN ECH;MEN INI;VEW NOW;MEN XEH")]⟩,
  ⟨"HEBREW LETTER ", [
    (0xfb1d, "YOD WITH HIRIQ;;;ALTERNATIVE AYIN"), (0xfb29, "ALTERNATIVE PLUS SIGN"),
    (0xfb2a, "SHIN WITH SHIN DOT;SHIN WITH SIN DOT;SHIN WITH DAGESH AND SHIN DOT"),
    (0xfb2d, "SHIN WITH DAGESH AND SIN DOT;ALEF WITH PATAH;ALEF WITH QAMATS;ALEF WITH MAPIQ"),
    (0xfb31, "BET WITH DAGESH;GIMEL WITH DAGESH;DALET WITH DAGESH;HE WITH MAPIQ;VAV WITH DAGESH"),
    (0xfb36, "ZAYIN WITH DAGESH;;TET WITH DAGESH;YOD WITH DAGESH;FINAL KAF WITH DAGESH"),
    (0xfb3b, "KAF WITH DAGESH;LAMED WITH DAGESH;;MEM WITH DAGESH;;NUN WITH DAGESH"),
    (0xfb41, "SAMEKH WITH DAGESH;;FINAL PE WITH DAGESH;PE WITH DAGESH;;TSADI WITH DAGESH"),
    (0xfb47, "QOF WITH DAGESH;RESH WITH DAGESH;SHIN WITH DAGESH;TAV WITH DAGESH;VAV WITH HOLAM"),
    (0xfb4c, "BET WITH RAFE;KAF WITH RAFE;PE WITH RAFE")]⟩,
  ⟨"HEBREW ", [
    (0xfb1e, "POINT JUDEO-SPANISH VARIKA;LIGATURE YIDDISH YOD YOD PATAH"),
    (0xfb4f, "LIGATURE ALEF LAMED")]⟩,
  ⟨"HEBREW LETTER WIDE ", [(0xfb21, "ALEF;DALET;HE;KAF;LAMED;FINAL MEM;RESH;TAV")]⟩,
  ⟨"ARABIC LETTER ALEF ", [
    (0xfb50, "WASLA ISOLATED FORM;WASLA FINAL FORM"), (0xfe81, "WITH MADDA ABOVE ISOLATED FORM"),
    (0xfe82, "WITH MADDA ABOVE FINAL FORM;WITH HAMZA ABOVE ISOLATED FORM"),
    (0xfe84, "WITH HAMZA ABOVE FINAL FORM;;;WITH HAMZA BELOW ISOLATED FORM"),
    (0xfe88, "WITH HAMZA BELOW FINAL FORM;;;;;ISOLATED FORM;FINAL FORM"),
    (0xfeef, "MAKSURA ISOLATED FORM;MAKSURA FINAL FORM")]⟩,
  ⟨"ARABIC LETTER ", [
    (0xfb52, "BEEH ISOLATED FORM;BEEH FINAL FORM;BEEH INITIAL FORM;BEEH MEDIAL FORM"),
    (0xfb56, "PEH ISOLATED FORM;PEH FINAL FORM;PEH INITIAL FORM;PEH MEDIAL FORM"),
    (0xfb5a, "BEHEH ISOLATED FORM;BEHEH FINAL FORM;BEHEH INITIAL FORM;BEHEH MEDIAL FORM"),
    (0xfb5e, "TTEHEH ISOLATED FORM;TTEHEH FINAL FORM;TTEHEH INITIAL FORM;TTEHEH MEDIAL FORM"),
    (0xfb62, "TEHEH ISOLATED FORM;TEHEH FINAL FORM;TEHEH INITIAL FORM;TEHEH MEDIAL FORM"),
    (0xfb66, "TTEH ISOLATED FORM;TTEH FINAL FORM;TTEH INITIAL FORM;TTEH MEDIAL FORM"),
    (0xfb6a, "VEH ISOLATED FORM;VEH FINAL FORM;VEH INITIAL FORM;VEH MEDIAL FORM"),
    (0xfb6e, "PEHEH ISOLATED FORM;PEHEH FINAL FORM;PEHEH INITIAL FORM;PEHEH MEDIAL FORM"),
    (0xfb72, "DYEH ISOLATED FORM;DYEH FINAL FORM;DYEH INITIAL FORM;DYEH MEDIAL FORM"),
    (0xfb76, "NYEH ISOLATED FORM;NYEH FINAL FORM;NYEH INITIAL FORM;NYEH MEDIAL FORM"),
    (0xfb7a, "TCHEH ISOLATED FORM;TCHEH FINAL FORM;TCHEH INITIAL FORM;TCHEH MEDIAL FORM"),
    (0xfb7e, "TCHEHEH ISOLATED FORM;TCHEHEH FINAL FORM;TCHEHEH INITIAL FORM;TCHEHEH MEDIAL FORM"),
    (0xfb82, "DDAHAL ISOLATED FORM;DDAHAL FINAL FORM;DAHAL ISOLATED FORM;DAHAL FINAL FORM"),
    (0xfb86, "DUL ISOLATED FORM;DUL FINAL FORM;DDAL ISOLATED FORM;DDAL FINAL FORM"),
    (0xfb8a, "JEH ISOLATED FORM;JEH FINAL FORM;RREH ISOLATED FORM;RREH FINAL FORM"),
    (0xfb8e, "KEHEH ISOLATED FORM;KEHEH FINAL FORM;KEHEH INITIAL FORM;KEHEH MEDIAL FORM"),
    (0xfb92, "GAF ISOLATED FORM;GAF FINAL FORM;GAF INITIAL FORM;GAF MEDIAL FORM"),
    (0xfb96, "GUEH ISOLATED FORM;GUEH FINAL FORM;GUEH INITIAL FORM;GUEH MEDIAL FORM"),
    (0xfb9a, "NGOEH ISOLATED FORM;NGOEH FINAL FORM;NGOEH INITIAL FORM;NGOEH MEDIAL FORM"),
    (0xfb9e, "NOON GHUNNA ISOLATED FORM;NOON GHUNNA FINAL FORM;RNOON ISOLATED FORM"),
    (0xfba1, "RNOON FINAL FORM;RNOON INITIAL FORM;RNOON MEDIAL FORM"),
    (0xfbd3, "NG ISOLATED FORM;NG FINAL FORM;NG INITIAL FORM;NG MEDIAL FORM;U ISOLATED FORM"),
    (0xfbd8, "U FINAL FORM;OE ISOLATED FORM;OE FINAL FORM;YU ISOLATED FORM;YU FINAL FORM"),
    (0xfbdd, "U WITH HAMZA ABOVE ISOLATED FORM;VE ISOLATED FORM;VE FINAL FORM"),
    (0xfbe0, "KIRGHIZ OE ISOLATED FORM;KIRGHIZ OE FINAL FORM;KIRGHIZ YU ISOLATED FORM"),
    (0xfbe3, "KIRGHIZ YU FINAL FORM;E ISOLATED FORM;E FINAL FORM;E INITIAL FORM;E MEDIAL FORM"),
    (0xfbe8, "UIGHUR KAZAKH KIRGHIZ ALEF MAKSURA INITIAL FORM"),
    (0xfbe9, "UIGHUR KAZAKH KIRGHIZ ALEF MAKSURA MEDIAL FORM"),
    (0xfbfc, "FARSI YEH ISOLATED FORM;FARSI YEH FINAL FORM;FARSI YEH INITIAL FORM"),
    (0xfbff, "FARSI YEH MEDIAL FORM"), (0xfe80, "HAMZA ISOLATED FORM"),
    (0xfe85, "WAW WITH HAMZA ABOVE ISOLATED FORM;WAW WITH HAMZA ABOVE FINAL FORM"),
    (0xfe8f, "BEH ISOLATED FORM;BEH FINAL FORM;BEH INITIAL FORM;BEH MEDIAL FORM"),
    (0xfe93, "TEH MARBUTA ISOLATED FORM;TEH MARBUTA FINAL FORM;TEH ISOLATED FORM;TEH FINAL FORM"),
    (0xfe97, "TEH INITIAL FORM;TEH MEDIAL FORM;THEH ISOLATED FORM;THEH FINAL FORM"),
    (0xfe9b, "THEH INITIAL FORM;THEH MEDIAL FORM;JEEM ISOLATED FORM;JEEM FINAL FORM"),
    (0xfe9f, "JEEM INITIAL FORM;JEEM MEDIAL FORM;HAH ISOLATED FORM;HAH FINAL FORM"),
    (0xfea3, "HAH INITIAL FORM;HAH MEDIAL FORM;KHAH ISOLATED FORM;KHAH FINAL FORM"),
    (0xfea7, "KHAH INITIAL FORM;KHAH MEDIAL FORM;DAL ISOLATED FORM;DAL FINAL FORM"),
    (0xfeab, "THAL ISOLATED FORM;THAL FINAL FORM;REH ISOLATED FORM;REH FINAL FORM"),
    (0xfeaf, "ZAIN ISOLATED FORM;ZAIN FINAL FORM;SEEN ISOLATED FORM;SEEN FINAL FORM"),
    (0xfeb3, "SEEN INITIAL FORM;SEEN MEDIAL FORM;SHEEN ISOLATED FORM;SHEEN FINAL FORM"),
    (0xfeb7, "SHEEN INITIAL FORM;SHEEN MEDIAL FORM;SAD ISOLATED FORM;SAD FINAL FORM"),
    (0xfebb, "SAD INITIAL FORM;SAD MEDIAL FORM;DAD ISOLATED FORM;DAD FINAL FORM"),
    (0xfebf, "DAD INITIAL FORM;DAD MEDIAL FORM;TAH ISOLATED FORM;TAH FINAL FORM"),
    (0xfec3, "TAH INITIAL FORM;TAH MEDIAL FORM;ZAH ISOLATED FORM;ZAH FINAL FORM"),
    (0xfec7, "ZAH INITIAL FORM;ZAH MEDIAL FORM;AIN ISOLATED FORM;AIN FINAL FORM"),
    (0xfecb, "AIN INITIAL FORM;AIN MEDIAL FORM;GHAIN ISOLATED FORM;GHAIN FINAL FORM"),
    (0xfecf, "GHAIN INITIAL FORM;GHAIN MEDIAL FORM;FEH ISOLATED FORM;FEH FINAL FORM"),
    (0xfed3, "FEH INITIAL FORM;FEH MEDIAL FORM;QAF ISOLATED FORM;QAF FINAL FORM"),
    (0xfed7, "QAF INITIAL FORM;QAF MEDIAL FORM;KAF ISOLATED FORM;KAF FINAL FORM"),
    (0xfedb, "KAF INITIAL FORM;KAF MEDIAL FORM;LAM ISOLATED FORM;LAM FINAL FORM"),
    (0xfedf, "LAM INITIAL FORM;LAM MEDIAL FORM;MEEM ISOLATED FORM;MEEM FINAL FORM"),
    (0xfee3, "MEEM INITIAL FORM;MEEM MEDIAL FORM;NOON ISOLATED FORM;NOON FINAL FORM"),
    (0xfee7, "NOON INITIAL FORM;NOON MEDIAL FORM;;;;;WAW ISOLATED FORM;WAW FINAL FORM")]⟩,
  ⟨"ARABIC LETTER HEH ", [
    (0xfba4, "WITH YEH ABOVE ISOLATED FORM;WITH YEH ABOVE FINAL FORM;GOAL ISOLATED FORM"),
    (0xfba7, "GOAL FINAL FORM;GOAL INITIAL FORM;GOAL MEDIAL FORM"), (0xfee9, "ISOLATED FORM"),
    (0xfeea, "FINAL FORM;INITIAL FORM;MEDIAL FORM")]⟩,
  ⟨"ARABIC LETTER HEH DOACHASHMEE ", [
    (0xfbaa, "ISOLATED FORM;FINAL FORM;INITIAL FORM;MEDIAL FORM")]⟩,
  ⟨"ARABIC LETTER YEH ", [
    (0xfbae, "BARREE ISOLATED FORM;BARREE FINAL FORM;BARREE WITH HAMZA ABOVE ISOLATED FORM"),
    (0xfbb1, "BARREE WITH HAMZA ABOVE FINAL FORM"), (0xfe89, "WITH HAMZA ABOVE ISOLATED FORM"),
    (0xfe8a, "WITH HAMZA ABOVE FINAL FORM;WITH HAMZA ABOVE INITIAL FORM"),
    (0xfe8c, "WITH HAMZA ABOVE MEDIAL FORM"), (0xfef1, "ISOLATED FORM;FINAL FORM;INITIAL FORM"),
    (0xfef4, "MEDIAL FORM")]⟩,
  ⟨"ARABIC SYMBOL ", [
    (0xfbb2, "DOT ABOVE;DOT BELOW;TWO DOTS ABOVE;TWO DOTS BELOW;THREE DOTS ABOVE"),
    (0xfbb7, "THREE DOTS BELOW;THREE DOTS POINTING DOWNWARDS ABOVE"),
    (0xfbb9, "THREE DOTS POINTING DOWNWARDS BELOW;FOUR DOTS ABOVE;FOUR DOTS BELOW"),
    (0xfbbc, "DOUBLE VERTICAL BAR BELOW;TWO DOTS VERTICALLY ABOVE;TWO DOTS VERTICALLY BELOW"),
    (0xfbbf, "RING;SMALL TAH ABOVE;SMALL TAH BELOW;WASLA ABOVE")]⟩,
  ⟨"ARABIC LIGATURE YEH WITH HAMZA ABOVE WITH ", [
    (0xfbea, "ALEF ISOLATED FORM;ALEF FINAL FORM;AE ISOLATED FORM;AE FINAL FORM"),
    (0xfbee, "WAW ISOLATED FORM;WAW FINAL FORM;U ISOLATED FORM;U FINAL FORM;OE ISOLATED FORM"),
    (0xfbf3, "OE FINAL FORM;YU ISOLATED FORM;YU FINAL FORM;E ISOLATED FORM;E FINAL FORM"),
    (0xfbf8, "E INITIAL FORM;;;;;;;;JEEM ISOLATED FORM;HAH ISOLATED FORM;MEEM ISOLATED FORM"),
    (0xfc03, "ALEF MAKSURA ISOLATED FORM;YEH ISOLATED FORM"), (0xfc64, "REH FINAL FORM"),
    (0xfc65, "ZAIN FINAL FORM;MEEM FINAL FORM;NOON FINAL FORM;ALEF MAKSURA FINAL FORM"),
    (0xfc69, "YEH FINAL FORM"), (0xfc97, "JEEM INITIAL FORM;HAH INITIAL FORM;KHAH INITIAL FORM"),
    (0xfc9a, "MEEM INITIAL FORM;HEH INITIAL FORM"), (0xfcdf, "MEEM MEDIAL FORM;HEH MEDIAL FORM")]⟩,
  ⟨"ARABIC LIGATURE ", [
    (0xfbf9, "UIGHUR KIRGHIZ YEH WITH HAMZA ABOVE WITH ALEF MAKSURA ISOLATED FORM"),
    (0xfbfa, "UIGHUR KIRGHIZ YEH WITH HAMZA ABOVE WITH ALEF MAKSURA FINAL FORM"),
    (0xfbfb, "UIGHUR KIRGHIZ YEH WITH HAMZA ABOVE WITH ALEF MAKSURA INITIAL FORM"),
    (0xfc28, "ZAH WITH MEEM ISOLATED FORM"), (0xfc5b, "THAL WITH SUPERSCRIPT ALEF ISOLATED FORM"),
    (0xfc5c, "REH WITH SUPERSCRIPT ALEF ISOLATED FORM"),
    (0xfc5d, "ALEF MAKSURA WITH SUPERSCRIPT ALEF ISOLATED FORM"),
    (0xfc90, "ALEF MAKSURA WITH SUPERSCRIPT ALEF FINAL FORM"),
    (0xfcb9, "ZAH WITH MEEM INITIAL FORM"), (0xfd3b, "ZAH WITH MEEM MEDIAL FORM"),
    (0xfd3c, "ALEF WITH FATHATAN FINAL FORM;ALEF WITH FATHATAN ISOLATED FORM;;;RAHIMAHU ALLAAH"),
    (0xfd41, "RADI ALLAAHU ANH;RADI ALLAAHU ANHAA;RADI ALLAAHU ANHUM;RADI ALLAAHU ANHUMAA"),
    (0xfd45, "RADI ALLAAHU ANHUNNA;SALLALLAAHU ALAYHI WA-AALIH;ALAYHI AS-SALAAM"),
    (0xfd48, "ALAYHIM AS-SALAAM;ALAYHIMAA AS-SALAAM;ALAYHI AS-SALAATU WAS-SALAAM;QUDDISA SIRRAH"),
    (0xfd4c, "SALLALLAHU ALAYHI WAAALIHEE WA-SALLAM;ALAYHAA AS-SALAAM;TABAARAKA WA-TAAALAA"),
    (0xfd4f, "RAHIMAHUM ALLAAH"), (0xfdcf, "SALAAMUHU ALAYNAA"),
    (0xfdf0, "SALLA USED AS KORANIC STOP SIGN ISOLATED FORM"),
    (0xfdf1, "QALA USED AS KORANIC STOP SIGN ISOLATED FORM;ALLAH ISOLATED FORM"),
    (0xfdf3, "AKBAR ISOLATED FORM;MOHAMMAD ISOLATED FORM;SALAM ISOLATED FORM"),
    (0xfdf6, "RASOUL ISOLATED FORM;ALAYHE ISOLATED FORM;WASALLAM ISOLATED FORM"),
    (0xfdf9, "SALLA ISOLATED FORM;SALLALLAHOU ALAYHE WASALLAM;JALLAJALALOUHOU"),
    (0xfdfd, "BISMILLAH AR-RAHMAN AR-RAHEEM;SUBHAANAHU WA TAAALAA;AZZA WA JALL")]⟩,
  ⟨"ARABIC LIGATURE BEH WITH ", [
    (0xfc05, "JEEM ISOLATED FORM;HAH ISOLATED FORM;KHAH ISOLATED FORM;MEEM ISOLATED FORM"),
    (0xfc09, "ALEF MAKSURA ISOLATED FORM;YEH ISOLATED FORM"), (0xfc6a, "REH FINAL FORM"),
    (0xfc6b, "ZAIN FINAL FORM;MEEM FINAL FORM;NOON FINAL FORM;ALEF MAKSURA FINAL FORM"),
    (0xfc6f, "YEH FINAL FORM"), (0xfc9c, "JEEM INITIAL FORM;HAH INITIAL FORM;KHAH INITIAL FORM"),
    (0xfc9f, "MEEM INITIAL FORM;HEH INITIAL FORM"), (0xfce1, "MEEM MEDIAL FORM;HEH MEDIAL FORM"),
    (0xfd9e, "KHAH WITH YEH FINAL FORM"), (0xfdc2, "HAH WITH YEH FINAL FORM")]⟩,
  ⟨"ARABIC LIGATURE TEH WITH ", [
    (0xfc0b, "JEEM ISOLATED FORM;HAH ISOLATED FORM;KHAH ISOLATED FORM"),
    (0xfc0f, "ALEF MAKSURA ISOLATED FORM;YEH ISOLATED FORM"), (0xfc70, "REH FINAL FORM"),
    (0xfc71, "ZAIN FINAL FORM;;NOON FINAL FORM;ALEF MAKSURA FINAL FORM;YEH FINAL FORM"),
    (0xfca1, "JEEM INITIAL FORM;HAH INITIAL FORM;KHAH INITIAL FORM;;HEH INITIAL FORM"),
    (0xfce4, "HEH MEDIAL FORM"), (0xfd50, "JEEM WITH MEEM INITIAL FORM;HAH WITH JEEM FINAL FORM"),
    (0xfd52, "HAH WITH JEEM INITIAL FORM;HAH WITH MEEM INITIAL FORM;KHAH WITH MEEM INITIAL FORM"),
    (0xfd9f, "JEEM WITH YEH FINAL FORM;JEEM WITH ALEF MAKSURA FINAL FORM"),
    (0xfda1, "KHAH WITH YEH FINAL FORM;KHAH WITH ALEF MAKSURA FINAL FORM")]⟩,
  ⟨"ARABIC LIGATURE TEH WITH MEEM ", [
    (0xfc0e, "ISOLATED FORM"), (0xfc72, "FINAL FORM"), (0xfca4, "INITIAL FORM"),
    (0xfce3, "MEDIAL FORM"), (0xfd55, "WITH JEEM INITIAL FORM;WITH HAH INITIAL FORM"),
    (0xfd57, "WITH KHAH INITIAL FORM"), (0xfda3, "WITH YEH FINAL FORM"),
    (0xfda4, "WITH ALEF MAKSURA FINAL FORM")]⟩,
  ⟨"ARABIC LIGATURE THEH WITH ", [
    (0xfc11, "JEEM ISOLATED FORM;MEEM ISOLATED FORM;ALEF MAKSURA ISOLATED FORM"),
    (0xfc14, "YEH ISOLATED FORM"), (0xfc76, "REH FINAL FORM;ZAIN FINAL FORM;MEEM FINAL FORM"),
    (0xfc79, "NOON FINAL FORM;ALEF MAKSURA FINAL FORM;YEH FINAL FORM"),
    (0xfca6, "MEEM INITIAL FORM"), (0xfce5, "MEEM MEDIAL FORM;HEH MEDIAL FORM")]⟩,
  ⟨"ARABIC LIGATURE JEEM WITH ", [
    (0xfc15, "HAH ISOLATED FORM;MEEM ISOLATED FORM"), (0xfca7, "HAH INITIAL FORM"),
    (0xfca8, "MEEM INITIAL FORM"), (0xfd01, "ALEF MAKSURA ISOLATED FORM;YEH ISOLATED FORM"),
    (0xfd1d, "ALEF MAKSURA FINAL FORM;YEH FINAL FORM"), (0xfd58, "MEEM WITH HAH FINAL FORM"),
    (0xfd59, "MEEM WITH HAH INITIAL FORM"), (0xfda5, "MEEM WITH YEH FINAL FORM"),
    (0xfda6, "HAH WITH ALEF MAKSURA FINAL FORM;MEEM WITH ALEF MAKSURA FINAL FORM"),
    (0xfdbe, "HAH WITH YEH FINAL FORM")]⟩,
  ⟨"ARABIC LIGATURE HAH WITH ", [
    (0xfc17, "JEEM ISOLATED FORM;MEEM ISOLATED FORM"), (0xfca9, "JEEM INITIAL FORM"),
    (0xfcaa, "MEEM INITIAL FORM"), (0xfcff, "ALEF MAKSURA ISOLATED FORM;YEH ISOLATED FORM"),
    (0xfd1b, "ALEF MAKSURA FINAL FORM;YEH FINAL FORM"), (0xfd5a, "MEEM WITH YEH FINAL FORM"),
    (0xfd5b, "MEEM WITH ALEF MAKSURA FINAL FORM"), (0xfdbf, "JEEM WITH YEH FINAL FORM")]⟩,
  ⟨"ARABIC LIGATURE KHAH WITH ", [
    (0xfc19, "JEEM ISOLATED FORM;HAH ISOLATED FORM;MEEM ISOLATED FORM"),
    (0xfcab, "JEEM INITIAL FORM;MEEM INITIAL FORM"), (0xfd03, "ALEF MAKSURA ISOLATED FORM"),
    (0xfd04, "YEH ISOLATED FORM"), (0xfd1f, "ALEF MAKSURA FINAL FORM;YEH FINAL FORM")]⟩,
  ⟨"ARABIC LIGATURE SEEN WITH ", [
    (0xfc1c, "JEEM ISOLATED FORM;HAH ISOLATED FORM;KHAH ISOLATED FORM;MEEM ISOLATED FORM"),
    (0xfcad, "JEEM INITIAL FORM;HAH INITIAL FORM;KHAH INITIAL FORM;MEEM INITIAL FORM"),
    (0xfce7, "MEEM MEDIAL FORM;HEH MEDIAL FORM"), (0xfcfb, "ALEF MAKSURA ISOLATED FORM"),
    (0xfcfc, "YEH ISOLATED FORM"), (0xfd0e, "REH ISOLATED FORM"),
    (0xfd17, "ALEF MAKSURA FINAL FORM;YEH FINAL FORM"), (0xfd2a, "REH FINAL FORM"),
    (0xfd31, "HEH INITIAL FORM;;;JEEM MEDIAL FORM;HAH MEDIAL FORM;KHAH MEDIAL FORM"),
    (0xfd5c, "HAH WITH JEEM INITIAL FORM;JEEM WITH HAH INITIAL FORM"),
    (0xfd5e, "JEEM WITH ALEF MAKSURA FINAL FORM;MEEM WITH HAH FINAL FORM"),
    (0xfd60, "MEEM WITH HAH INITIAL FORM;MEEM WITH JEEM INITIAL FORM;MEEM WITH MEEM FINAL FORM"),
    (0xfd63, "MEEM WITH MEEM INITIAL FORM"), (0xfda8, "KHAH WITH ALEF MAKSURA FINAL FORM"),
    (0xfdc6, "KHAH WITH YEH FINAL FORM")]⟩,
  ⟨"ARABIC LIGATURE SAD WITH ", [
    (0xfc20, "HAH ISOLATED FORM;MEEM ISOLATED FORM"), (0xfcb1, "HAH INITIAL FORM"),
    (0xfcb2, "KHAH INITIAL FORM;MEEM INITIAL FORM"), (0xfd05, "ALEF MAKSURA ISOLATED FORM"),
    (0xfd06, "YEH ISOLATED FORM"), (0xfd0f, "REH ISOLATED FORM"),
    (0xfd21, "ALEF MAKSURA FINAL FORM;YEH FINAL FORM"), (0xfd2b, "REH FINAL FORM"),
    (0xfd64, "HAH WITH HAH FINAL FORM;HAH WITH HAH INITIAL FORM;MEEM WITH MEEM FINAL FORM"),
    (0xfda9, "HAH WITH YEH FINAL FORM"), (0xfdc5, "MEEM WITH MEEM INITIAL FORM")]⟩,
  ⟨"ARABIC LIGATURE DAD WITH ", [
    (0xfc22, "JEEM ISOLATED FORM;HAH ISOLATED FORM;KHAH ISOLATED FORM;MEEM ISOLATED FORM"),
    (0xfcb4, "JEEM INITIAL FORM;HAH INITIAL FORM;KHAH INITIAL FORM;MEEM INITIAL FORM"),
    (0xfd07, "ALEF MAKSURA ISOLATED FORM;YEH ISOLATED FORM;;;;;;;;REH ISOLATED FORM"),
    (0xfd23, "ALEF MAKSURA FINAL FORM;YEH FINAL FORM;;;;;;;;REH FINAL FORM"),
    (0xfd6e, "HAH WITH ALEF MAKSURA FINAL FORM;KHAH WITH MEEM FINAL FORM"),
    (0xfd70, "KHAH WITH MEEM INITIAL FORM"), (0xfdab, "HAH WITH YEH FINAL FORM")]⟩,
  ⟨"ARABIC LIGATURE TAH WITH ", [
    (0xfc26, "HAH ISOLATED FORM;MEEM ISOLATED FORM"), (0xfcb8, "HAH INITIAL FORM"),
    (0xfcf5, "ALEF MAKSURA ISOLATED FORM;YEH ISOLATED FORM"), (0xfd11, "ALEF MAKSURA FINAL FORM"),
    (0xfd12, "YEH FINAL FORM"), (0xfd33, "MEEM INITIAL FORM;;;;;;;MEEM MEDIAL FORM"),
    (0xfd71, "MEEM WITH HAH FINAL FORM;MEEM WITH HAH INITIAL FORM;MEEM WITH MEEM INITIAL FORM"),
    (0xfd74, "MEEM WITH YEH FINAL FORM")]⟩,
  ⟨"ARABIC LIGATURE AIN WITH ", [
    (0xfc29, "JEEM ISOLATED FORM;MEEM ISOLATED FORM"), (0xfcba, "JEEM INITIAL FORM"),
    (0xfcbb, "MEEM INITIAL FORM"), (0xfcf7, "ALEF MAKSURA ISOLATED FORM;YEH ISOLATED FORM"),
    (0xfd13, "ALEF MAKSURA FINAL FORM;YEH FINAL FORM"), (0xfd75, "JEEM WITH MEEM FINAL FORM"),
    (0xfd76, "MEEM WITH MEEM FINAL FORM;MEEM WITH MEEM INITIAL FORM"),
    (0xfd78, "MEEM WITH ALEF MAKSURA FINAL FORM"), (0xfdb6, "MEEM WITH YEH FINAL FORM"),
    (0xfdc4, "JEEM WITH MEEM INITIAL FORM")]⟩,
  ⟨"ARABIC LIGATURE GHAIN WITH ", [
    (0xfc2b, "JEEM ISOLATED FORM;MEEM ISOLATED FORM"), (0xfcbc, "JEEM INITIAL FORM"),
    (0xfcbd, "MEEM INITIAL FORM"), (0xfcf9, "ALEF MAKSURA ISOLATED FORM;YEH ISOLATED FORM"),
    (0xfd15, "ALEF MAKSURA FINAL FORM;YEH FINAL FORM"), (0xfd79, "MEEM WITH MEEM FINAL FORM"),
    (0xfd7a, "MEEM WITH YEH FINAL FORM;MEEM WITH ALEF MAKSURA FINAL FORM")]⟩,
  ⟨"ARABIC LIGATURE FEH WITH ", [
    (0xfc2d, "JEEM ISOLATED FORM;HAH ISOLATED FORM;KHAH ISOLATED FORM;MEEM ISOLATED FORM"),
    (0xfc31, "ALEF MAKSURA ISOLATED FORM;YEH ISOLATED FORM"), (0xfc7c, "ALEF MAKSURA FINAL FORM"),
    (0xfc7d, "YEH FINAL FORM"), (0xfcbe, "JEEM INITIAL FORM;HAH INITIAL FORM;KHAH INITIAL FORM"),
    (0xfcc1, "MEEM INITIAL FORM"), (0xfd7c, "KHAH WITH MEEM FINAL FORM"),
    (0xfd7d, "KHAH WITH MEEM INITIAL FORM"), (0xfdc1, "MEEM WITH YEH FINAL FORM")]⟩,
  ⟨"ARABIC LIGATURE QAF WITH ", [
    (0xfc33, "HAH ISOLATED FORM;MEEM ISOLATED FORM;ALEF MAKSURA ISOLATED FORM;YEH ISOLATED FORM"),
    (0xfc7e, "ALEF MAKSURA FINAL FORM;YEH FINAL FORM"), (0xfcc2, "HAH INITIAL FORM"),
    (0xfcc3, "MEEM INITIAL FORM"), (0xfd7e, "MEEM WITH HAH FINAL FORM;MEEM WITH MEEM FINAL FORM"),
    (0xfdb2, "MEEM WITH YEH FINAL FORM;;MEEM WITH HAH INITIAL FORM")]⟩,
  ⟨"ARABIC LIGATURE KAF WITH ", [
    (0xfc37, "ALEF ISOLATED FORM;JEEM ISOLATED FORM;HAH ISOLATED FORM;KHAH ISOLATED FORM"),
    (0xfc3b, "LAM ISOLATED FORM;MEEM ISOLATED FORM;ALEF MAKSURA ISOLATED FORM;YEH ISOLATED FORM"),
    (0xfc80, "ALEF FINAL FORM;LAM FINAL FORM;MEEM FINAL FORM;ALEF MAKSURA FINAL FORM"),
    (0xfc84, "YEH FINAL FORM"), (0xfcc4, "JEEM INITIAL FORM;HAH INITIAL FORM;KHAH INITIAL FORM"),
    (0xfcc7, "LAM INITIAL FORM;MEEM INITIAL FORM"), (0xfceb, "LAM MEDIAL FORM;MEEM MEDIAL FORM"),
    (0xfdb7, "MEEM WITH YEH FINAL FORM;;;;MEEM WITH MEEM FINAL FORM"),
    (0xfdc3, "MEEM WITH MEEM INITIAL FORM")]⟩,
  ⟨"ARABIC LIGATURE LAM WITH ", [
    (0xfc3f, "JEEM ISOLATED FORM;HAH ISOLATED FORM;KHAH ISOLATED FORM;MEEM ISOLATED FORM"),
    (0xfc44, "YEH ISOLATED FORM"), (0xfc85, "MEEM FINAL FORM;;YEH FINAL FORM"),
    (0xfcc9, "JEEM INITIAL FORM;HAH INITIAL FORM;KHAH INITIAL FORM;MEEM INITIAL FORM"),
    (0xfccd, "HEH INITIAL FORM"), (0xfced, "MEEM MEDIAL FORM"),
    (0xfd80, "HAH WITH MEEM FINAL FORM;HAH WITH YEH FINAL FORM;HAH WITH ALEF MAKSURA FINAL FORM"),
    (0xfd83, "JEEM WITH JEEM INITIAL FORM;JEEM WITH JEEM FINAL FORM;KHAH WITH MEEM FINAL FORM"),
    (0xfd86, "KHAH WITH MEEM INITIAL FORM;MEEM WITH HAH FINAL FORM;MEEM WITH HAH INITIAL FORM"),
    (0xfdac, "JEEM WITH YEH FINAL FORM;MEEM WITH YEH FINAL FORM"),
    (0xfdb5, "HAH WITH MEEM INITIAL FORM;;;;;JEEM WITH MEEM INITIAL FORM"),
    (0xfdbc, "JEEM WITH MEEM FINAL FORM")]⟩,
  ⟨"ARABIC LIGATURE LAM WITH ALEF ", [
    (0xfc43, "MAKSURA ISOLATED FORM"), (0xfc86, "MAKSURA FINAL FORM"),
    (0xfef5, "WITH MADDA ABOVE ISOLATED FORM;WITH MADDA ABOVE FINAL FORM"),
    (0xfef7, "WITH HAMZA ABOVE ISOLATED FORM;WITH HAMZA ABOVE FINAL FORM"),
    (0xfef9, "WITH HAMZA BELOW ISOLATED FORM;WITH HAMZA BELOW FINAL FORM;ISOLATED FORM"),
    (0xfefc, "FINAL FORM")]⟩,
  ⟨"ARABIC LIGATURE MEEM WITH ", [
    (0xfc45, "JEEM ISOLATED FORM;HAH ISOLATED FORM;KHAH ISOLATED FORM;MEEM ISOLATED FORM"),
    (0xfc49, "ALEF MAKSURA ISOLATED FORM;YEH ISOLATED FORM"), (0xfc88, "ALEF FINAL FORM"),
    (0xfc89, "MEEM FINAL FORM"), (0xfcce, "JEEM INITIAL FORM;HAH INITIAL FORM;KHAH INITIAL FORM"),
    (0xfcd1, "MEEM INITIAL FORM"), (0xfd89, "HAH WITH JEEM INITIAL FORM"),
    (0xfd8a, "HAH WITH MEEM INITIAL FORM;HAH WITH YEH FINAL FORM;JEEM WITH HAH INITIAL FORM"),
    (0xfd8d, "JEEM WITH MEEM INITIAL FORM;KHAH WITH JEEM INITIAL FORM"),
    (0xfd8f, "KHAH WITH MEEM INITIAL FORM;;;JEEM WITH KHAH INITIAL FORM"),
    (0xfdb1, "MEEM WITH YEH FINAL FORM;;;;;;;;KHAH WITH YEH FINAL FORM"),
    (0xfdc0, "JEEM WITH YEH FINAL FORM")]⟩,
  ⟨"ARABIC LIGATURE NOON WITH ", [
    (0xfc4b, "JEEM ISOLATED FORM;HAH ISOLATED FORM;KHAH ISOLATED FORM;MEEM ISOLATED FORM"),
    (0xfc4f, "ALEF MAKSURA ISOLATED FORM;YEH ISOLATED FORM"), (0xfc8a, "REH FINAL FORM"),
    (0xfc8b, "ZAIN FINAL FORM;MEEM FINAL FORM;NOON FINAL FORM;ALEF MAKSURA FINAL FORM"),
    (0xfc8f, "YEH FINAL FORM"), (0xfcd2, "JEEM INITIAL FORM;HAH INITIAL FORM;KHAH INITIAL FORM"),
    (0xfcd5, "MEEM INITIAL FORM;HEH INITIAL FORM"), (0xfcee, "MEEM MEDIAL FORM;HEH MEDIAL FORM"),
    (0xfd95, "HAH WITH MEEM INITIAL FORM;HAH WITH ALEF MAKSURA FINAL FORM"),
    (0xfd97, "JEEM WITH MEEM FINAL FORM;JEEM WITH MEEM INITIAL FORM"),
    (0xfd99, "JEEM WITH ALEF MAKSURA FINAL FORM;MEEM WITH YEH FINAL FORM"),
    (0xfd9b, "MEEM WITH ALEF MAKSURA FINAL FORM"), (0xfdb3, "HAH WITH YEH FINAL FORM"),
    (0xfdb8, "JEEM WITH HAH INITIAL FORM;;;;;JEEM WITH HAH FINAL FORM"),
    (0xfdc7, "JEEM WITH YEH FINAL FORM")]⟩,
  ⟨"ARABIC LIGATURE HEH WITH ", [
    (0xfc51, "JEEM ISOLATED FORM;MEEM ISOLATED FORM;ALEF MAKSURA ISOLATED FORM"),
    (0xfc54, "YEH ISOLATED FORM"), (0xfcd7, "JEEM INITIAL FORM;MEEM INITIAL FORM"),
    (0xfcd9, "SUPERSCRIPT ALEF INITIAL FORM"), (0xfd93, "MEEM WITH JEEM INITIAL FORM"),
    (0xfd94, "MEEM WITH MEEM INITIAL FORM")]⟩,
  ⟨"ARABIC LIGATURE YEH WITH ", [
    (0xfc55, "JEEM ISOLATED FORM;HAH ISOLATED FORM;KHAH ISOLATED FORM;MEEM ISOLATED FORM"),
    (0xfc59, "ALEF MAKSURA ISOLATED FORM;YEH ISOLATED FORM"), (0xfc91, "REH FINAL FORM"),
    (0xfc92, "ZAIN FINAL FORM;MEEM FINAL FORM;NOON FINAL FORM;ALEF MAKSURA FINAL FORM"),
    (0xfc96, "YEH FINAL FORM"), (0xfcda, "JEEM INITIAL FORM;HAH INITIAL FORM;KHAH INITIAL FORM"),
    (0xfcdd, "MEEM INITIAL FORM;HEH INITIAL FORM"), (0xfcf0, "MEEM MEDIAL FORM;HEH MEDIAL FORM"),
    (0xfd9c, "MEEM WITH MEEM FINAL FORM;MEEM WITH MEEM INITIAL FORM"),
    (0xfdae, "HAH WITH YEH FINAL FORM;JEEM WITH YEH FINAL FORM;MEEM WITH YEH FINAL FORM")]⟩,
  ⟨"ARABIC LIGATURE SHADDA WITH ", [
    (0xfc5e, "DAMMATAN ISOLATED FORM;KASRATAN ISOLATED FORM;FATHA ISOLATED FORM"),
    (0xfc61, "DAMMA ISOLATED FORM;KASRA ISOLATED FORM;SUPERSCRIPT ALEF ISOLATED FORM"),
    (0xfcf2, "FATHA MEDIAL FORM;DAMMA MEDIAL FORM;KASRA MEDIAL FORM")]⟩,
  ⟨"ARABIC LIGATURE SHEEN WITH ", [
    (0xfce9, "MEEM MEDIAL FORM;HEH MEDIAL FORM"), (0xfcfd, "ALEF MAKSURA ISOLATED FORM"),
    (0xfcfe, "YEH ISOLATED FORM"), (0xfd09, "JEEM ISOLATED FORM;HAH ISOLATED FORM"),
    (0xfd0b, "KHAH ISOLATED FORM;MEEM ISOLATED FORM;REH ISOLATED FORM"),
    (0xfd19, "ALEF MAKSURA FINAL FORM;YEH FINAL FORM"), (0xfd25, "JEEM FINAL FORM"),
    (0xfd26, "HAH FINAL FORM;KHAH FINAL FORM;MEEM FINAL FORM;REH FINAL FORM"),
    (0xfd2d, "JEEM INITIAL FORM;HAH INITIAL FORM;KHAH INITIAL FORM;MEEM INITIAL FORM"),
    (0xfd32, "HEH INITIAL FORM;;;;;JEEM MEDIAL FORM;HAH MEDIAL FORM;KHAH MEDIAL FORM"),
    (0xfd67, "HAH WITH MEEM FINAL FORM;HAH WITH MEEM INITIAL FORM;JEEM WITH YEH FINAL FORM"),
    (0xfd6a, "MEEM WITH KHAH FINAL FORM;MEEM WITH KHAH INITIAL FORM;MEEM WITH MEEM FINAL FORM"),
    (0xfd6d, "MEEM WITH MEEM INITIAL FORM"), (0xfdaa, "HAH WITH YEH FINAL FORM")]⟩,
  ⟨"PRESENTATION FORM FOR VERTICAL ", [
    (0xfe10, "COMMA;IDEOGRAPHIC COMMA;IDEOGRAPHIC FULL STOP;COLON;SEMICOLON;EXCLAMATION MARK"),
    (0xfe16, "QUESTION MARK;;;HORIZONTAL ELLIPSIS"), (0xfe30, "TWO DOT LEADER;EM DASH;EN DASH"),
    (0xfe33, "LOW LINE;WAVY LOW LINE")]⟩,
  ⟨"PRESENTATION FORM FOR VERTICAL LEFT ", [
    (0xfe17, "WHITE LENTICULAR BRACKET"), (0xfe35, "PARENTHESIS;;CURLY BRACKET"),
    (0xfe39, "TORTOISE SHELL BRACKET;;BLACK LENTICULAR BRACKET;;DOUBLE ANGLE BRACKET"),
    (0xfe3f, "ANGLE BRACKET;;CORNER BRACKET;;WHITE CORNER BRACKET;;;;SQUARE BRACKET")]⟩,
  ⟨"PRESENTATION FORM FOR VERTICAL RIGHT ", [
    (0xfe18, "WHITE LENTICULAR BRAKCET"), (0xfe36, "PARENTHESIS;;CURLY BRACKET"),
    (0xfe3a, "TORTOISE SHELL BRACKET;;BLACK LENTICULAR BRACKET;;DOUBLE ANGLE BRACKET"),
    (0xfe40, "ANGLE BRACKET;;CORNER BRACKET;;WHITE CORNER BRACKET;;;;SQUARE BRACKET")]⟩,
  ⟨"COMBINING LIGATURE ", [(0xfe20, "LEFT HALF;RIGHT HALF;;;;;;LEFT HALF BELOW;RIGHT HALF BELOW")]⟩,
  ⟨"SMALL ", [
    (0xfe50, "COMMA;IDEOGRAPHIC COMMA;FULL STOP;;SEMICOLON;COLON;QUESTION MARK;EXCLAMATION MARK"),
    (0xfe58, "EM DASH;LEFT PARENTHESIS;RIGHT PARENTHESIS;LEFT CURLY BRACKET;RIGHT CURLY BRACKET"),
    (0xfe5d, "LEFT TORTOISE SHELL BRACKET;RIGHT TORTOISE SHELL BRACKET;NUMBER SIGN;AMPERSAND"),
    (0xfe61, "ASTERISK;PLUS SIGN;HYPHEN-MINUS;LESS-THAN SIGN;GREATER-THAN SIGN;EQUALS SIGN"),
    (0xfe68, "REVERSE SOLIDUS;DOLLAR SIGN;PERCENT SIGN;COMMERCIAL AT")]⟩,
  ⟨"ARABIC ", [
    (0xfe70, "FATHATAN ISOLATED FORM;TATWEEL WITH FATHATAN ABOVE;DAMMATAN ISOLATED FORM"),
    (0xfe73, "TAIL FRAGMENT;KASRATAN ISOLATED FORM;;FATHA ISOLATED FORM;FATHA MEDIAL FORM"),
    (0xfe78, "DAMMA ISOLATED FORM;DAMMA MEDIAL FORM;KASRA ISOLATED FORM;KASRA MEDIAL FORM"),
    (0xfe7c, "SHADDA ISOLATED FORM;SHADDA MEDIAL FORM;SUKUN ISOLATED FORM;SUKUN MEDIAL FORM")]⟩,
  ⟨"FULLWIDTH ", [
    (0xff01, "EXCLAMATION MARK;QUOTATION MARK;NUMBER SIGN;DOLLAR SIGN;PERCENT SIGN;AMPERSAND"),
    (0xff07, "APOSTROPHE;LEFT PARENTHESIS;RIGHT PARENTHESIS;ASTERISK;PLUS SIGN;COMMA"),
    (0xff0d, "HYPHEN-MINUS;FULL STOP;SOLIDUS"), (0xff1a, "COLON;SEMICOLON;LESS-THAN SIGN"),
    (0xff1d, "EQUALS SIGN;GREATER-THAN SIGN;QUESTION MARK;COMMERCIAL AT"),
    (0xff3b, "LEFT SQUARE BRACKET;REVERSE SOLIDUS;RIGHT SQUARE BRACKET;CIRCUMFLEX ACCENT"),
    (0xff3f, "LOW LINE;GRAVE ACCENT"), (0xff5b, "LEFT CURLY BRACKET;VERTICAL LINE"),
    (0xff5d, "RIGHT CURLY BRACKET;TILDE;LEFT WHITE PARENTHESIS;RIGHT WHITE PARENTHESIS"),
    (0xffe0, "CENT SIGN;POUND SIGN;NOT SIGN;MACRON;BROKEN BAR;YEN SIGN;WON SIGN")]⟩,
  ⟨"FULLWIDTH DIGIT ", [(0xff10, "ZERO;ONE;TWO;THREE;FOUR;FIVE;SIX;SEVEN;EIGHT;NINE")]⟩,
  ⟨"FULLWIDTH LATIN CAPITAL LETTER ", [
    (0xff21, "A;B;C;D;E;F;G;H;I;J;K;L;M;N;O;P;Q;R;S;T;U;V;W;X;Y;Z")]⟩,
  ⟨"FULLWIDTH LATIN SMALL LETTER ", [
    (0xff41, "A;B;C;D;E;F;G;H;I;J;K;L;M;N;O;P;Q;R;S;T;U;V;W;X;Y;Z")]⟩,
  ⟨"HALFWIDTH ", [
    (0xff61, "IDEOGRAPHIC FULL STOP;LEFT CORNER BRACKET;RIGHT CORNER BRACKET;IDEOGRAPHIC COMMA"),
    (0xff70, "KATAKANA-HIRAGANA PROLONGED SOUND MARK"), (0xffe8, "FORMS LIGHT VERTICAL"),
    (0xffe9, "LEFTWARDS ARROW;UPWARDS ARROW;RIGHTWARDS ARROW;DOWNWARDS ARROW;BLACK SQUARE"),
    (0xffee, "WHITE CIRCLE")]⟩,
  ⟨"HALFWIDTH KATAKANA ", [
    (0xff65, "MIDDLE DOT"), (0xff9e, "VOICED SOUND MARK;SEMI-VOICED SOUND MARK")]⟩,
  ⟨"HALFWIDTH KATAKANA LETTER ", [
    (0xff66, "WO"), (0xff71, "A;I;U;E;O;KA;KI;KU;KE;KO;SA;SI;SU;SE;SO;TA;TI;TU;TE;TO;NA;NI;NU"),
    (0xff88, "NE;NO;HA;HI;HU;HE;HO;MA;MI;MU;ME;MO;YA;YU;YO;RA;RI;RU;RE;RO;WA;N")]⟩,
  ⟨"HALFWIDTH KATAKANA LETTER SMALL ", [(0xff67, "A;I;U;E;O;YA;YU;YO;TU")]⟩,
  ⟨"HALFWIDTH HANGUL ", [(0xffa0, "FILLER")]⟩,
  ⟨"HALFWIDTH HANGUL LETTER ", [
    (0xffa1, "KIYEOK;SSANGKIYEOK;KIYEOK-SIOS;NIEUN;NIEUN-CIEUC;NIEUN-HIEUH;TIKEUT;SSANGTIKEUT"),
    (0xffa9, "RIEUL;RIEUL-KIYEOK;RIEUL-MIEUM;RIEUL-PIEUP;RIEUL-SIOS;RIEUL-THIEUTH;RIEUL-PHIEUPH"),
    (0xffb0, "RIEUL-HIEUH;MIEUM;PIEUP;SSANGPIEUP;PIEUP-SIOS;SIOS;SSANGSIOS;IEUNG;CIEUC"),
    (0xffb9, "SSANGCIEUC;CHIEUCH;KHIEUKH;THIEUTH;PHIEUPH;HIEUH;;;;A;AE;YA;YAE;EO;E;;;YEO;YE;O"),
    (0xffcd, "WA;WAE;OE;;;YO;U;WEO;WE;WI;YU;;;EU;YI;I")]⟩,
  ⟨"INTERLINEAR ", [(0xfff9, "ANNOTATION ANCHOR;ANNOTATION SEPARATOR;ANNOTATION TERMINATOR")]⟩]

end ReceiptRules.Text.CharacterName
