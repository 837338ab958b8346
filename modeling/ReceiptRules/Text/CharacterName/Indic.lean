import ReceiptRules.Text.CharacterName.Naming

/-!
# Names of Indic and other characters

The characters from 0x900 to 0x1cff: the scripts of southern Asia, and also those of Georgia, Korea,
Ethiopia and the north of America.
-/

namespace ReceiptRules.Text.CharacterName

def indic : List Family := [
  ⟨"DEVANAGARI SIGN ", [
    (0x900, "INVERTED CANDRABINDU;CANDRABINDU;ANUSVARA;VISARGA"), (0x93c, "NUKTA;AVAGRAHA"),
    (0x94d, "VIRAMA"), (0x971, "HIGH SPACING DOT")]⟩,
  ⟨"DEVANAGARI LETTER ", [
    (0x904, "SHORT A;A;AA;I;II;U;UU;VOCALIC R;VOCALIC L;CANDRA E;SHORT E;E;AI;CANDRA O;SHORT O"),
    (0x913, "O;AU;KA;KHA;GA;GHA;NGA;CA;CHA;JA;JHA;NYA;TTA;TTHA;DDA;DDHA;NNA;TA;THA;DA;DHA;NA"),
    (0x929, "NNNA;PA;PHA;BA;BHA;MA;YA;RA;RRA;LA;LLA;LLLA;VA;SHA;SSA;SA;HA"), (0x958, "QA;KHHA"),
    (0x95a, "GHHA;ZA;DDDHA;RHA;FA;YYA;VOCALIC RR;VOCALIC LL"), (0x972, "CANDRA A;OE;OOE;AW;UE"),
    (0x977, "UUE;MARWARI DDA;ZHA;HEAVY YA;GGA;JJA;GLOTTAL STOP;DDDA;BBA")]⟩,
  ⟨"DEVANAGARI VOWEL SIGN ", [
    (0x93a, "OE;OOE;;;AA;I;II;U;UU;VOCALIC R;VOCALIC RR;CANDRA E;SHORT E;E;AI;CANDRA O;SHORT O"),
    (0x94b, "O;AU;;PRISHTHAMATRA E;AW;;;;;;CANDRA LONG E;UE;UUE"), (0x962, "VOCALIC L"),
    (0x963, "VOCALIC LL")]⟩,
  ⟨"DEVANAGARI ", [
    (0x950, "OM;STRESS SIGN UDATTA;STRESS SIGN ANUDATTA;GRAVE ACCENT;ACUTE ACCENT"),
    (0x964, "DANDA;DOUBLE DANDA"), (0x970, "ABBREVIATION SIGN")]⟩,
  ⟨"DEVANAGARI DIGIT ", [(0x966, "ZERO;ONE;TWO;THREE;FOUR;FIVE;SIX;SEVEN;EIGHT;NINE")]⟩,
  ⟨"BENGALI ", [
    (0x980, "ANJI"), (0x9d7, "AU LENGTH MARK"), (0x9f2, "RUPEE MARK;RUPEE SIGN;;;;;;;ISSHAR"),
    (0x9fb, "GANDA MARK;;ABBREVIATION SIGN;SANDHI MARK")]⟩,
  ⟨"BENGALI SIGN ", [
    (0x981, "CANDRABINDU;ANUSVARA;VISARGA"), (0x9bc, "NUKTA;AVAGRAHA"), (0x9cd, "VIRAMA")]⟩,
  ⟨"BENGALI LETTER ", [
    (0x985, "A;AA;I;II;U;UU;VOCALIC R;VOCALIC L;;;E;AI;;;O;AU;KA;KHA;GA;GHA;NGA;CA;CHA;JA;JHA"),
    (0x99e, "NYA;TTA;TTHA;DDA;DDHA;NNA;TA;THA;DA;DHA;NA;;PA;PHA;BA;BHA;MA;YA;RA;;LA;;;;SHA;SSA"),
    (0x9b8, "SA;HA"), (0x9ce, "KHANDA TA"), (0x9dc, "RRA;RHA;;YYA;VOCALIC RR;VOCALIC LL"),
    (0x9f0, "RA WITH MIDDLE DIAGONAL;RA WITH LOWER DIAGONAL"), (0x9fc, "VEDIC ANUSVARA")]⟩,
  ⟨"BENGALI VOWEL SIGN ", [
    (0x9be, "AA;I;II;U;UU;VOCALIC R;VOCALIC RR;;;E;AI;;;O;AU"), (0x9e2, "VOCALIC L;VOCALIC LL")]⟩,
  ⟨"BENGALI DIGIT ", [(0x9e6, "ZERO;ONE;TWO;THREE;FOUR;FIVE;SIX;SEVEN;EIGHT;NINE")]⟩,
  ⟨"BENGALI CURRENCY NUMERATOR ", [(0x9f4, "ONE;TWO;THREE;FOUR;ONE LESS THAN THE DENOMINATOR")]⟩,
  ⟨"BENGALI CURRENCY ", [(0x9f9, "DENOMINATOR SIXTEEN")]⟩,
  ⟨"GURMUKHI SIGN ", [
    (0xa01, "ADAK BINDI;BINDI;VISARGA"), (0xa3c, "NUKTA"), (0xa4d, "VIRAMA;;;;UDAAT"),
    (0xa75, "YAKASH")]⟩,
  ⟨"GURMUKHI LETTER ", [
    (0xa05, "A;AA;I;II;U;UU;;;;;EE;AI;;;OO;AU;KA;KHA;GA;GHA;NGA;CA;CHA;JA;JHA;NYA;TTA;TTHA;DDA"),
    (0xa22, "DDHA;NNA;TA;THA;DA;DHA;NA;;PA;PHA;BA;BHA;MA;YA;RA;;LA;LLA;;VA;SHA;;SA;HA"),
    (0xa59, "KHHA;GHHA;ZA;RRA;;FA")]⟩,
  ⟨"GURMUKHI VOWEL SIGN ", [(0xa3e, "AA;I;II;U;UU;;;;;EE;AI;;;OO;AU")]⟩,
  ⟨"GURMUKHI DIGIT ", [(0xa66, "ZERO;ONE;TWO;THREE;FOUR;FIVE;SIX;SEVEN;EIGHT;NINE")]⟩,
  ⟨"GURMUKHI ", [(0xa70, "TIPPI;ADDAK;IRI;URA;EK ONKAR;;ABBREVIATION SIGN")]⟩,
  ⟨"GUJARATI SIGN ", [
    (0xa81, "CANDRABINDU;ANUSVARA;VISARGA"), (0xabc, "NUKTA;AVAGRAHA"), (0xacd, "VIRAMA"),
    (0xafa, "SUKUN;SHADDA;MADDAH;THREE-DOT NUKTA ABOVE;CIRCLE NUKTA ABOVE"),
    (0xaff, "TWO-CIRCLE NUKTA ABOVE")]⟩,
  ⟨"GUJARATI LETTER ", [
    (0xa85, "A;AA;I;II;U;UU;VOCALIC R;VOCALIC L;;;E;AI;;;O;AU;KA;KHA;GA;GHA;NGA;CA;CHA;JA;JHA"),
    (0xa9e, "NYA;TTA;TTHA;DDA;DDHA;NNA;TA;THA;DA;DHA;NA;;PA;PHA;BA;BHA;MA;YA;RA;;LA;LLA;;VA;SHA"),
    (0xab7, "SSA;SA;HA"), (0xae0, "VOCALIC RR;VOCALIC LL"), (0xaf9, "ZHA")]⟩,
  ⟨"GUJARATI VOWEL ", [(0xa8d, "CANDRA E;;;;CANDRA O")]⟩,
  ⟨"GUJARATI VOWEL SIGN ", [
    (0xabe, "AA;I;II;U;UU;VOCALIC R;VOCALIC RR;CANDRA E;;E;AI;CANDRA O;;O;AU"),
    (0xae2, "VOCALIC L;VOCALIC LL")]⟩,
  ⟨"GUJARATI ", [(0xad0, "OM"), (0xaf0, "ABBREVIATION SIGN;RUPEE SIGN")]⟩,
  ⟨"GUJARATI DIGIT ", [(0xae6, "ZERO;ONE;TWO;THREE;FOUR;FIVE;SIX;SEVEN;EIGHT;NINE")]⟩,
  ⟨"ORIYA SIGN ", [
    (0xb01, "CANDRABINDU;ANUSVARA;VISARGA"), (0xb3c, "NUKTA;AVAGRAHA"), (0xb4d, "VIRAMA"),
    (0xb55, "OVERLINE")]⟩,
  ⟨"ORIYA LETTER ", [
    (0xb05, "A;AA;I;II;U;UU;VOCALIC R;VOCALIC L;;;E;AI;;;O;AU;KA;KHA;GA;GHA;NGA;CA;CHA;JA;JHA"),
    (0xb1e, "NYA;TTA;TTHA;DDA;DDHA;NNA;TA;THA;DA;DHA;NA;;PA;PHA;BA;BHA;MA;YA;RA;;LA;LLA;;VA;SHA"),
    (0xb37, "SSA;SA;HA"), (0xb5c, "RRA;RHA;;YYA;VOCALIC RR;VOCALIC LL"), (0xb71, "WA")]⟩,
  ⟨"ORIYA VOWEL SIGN ", [
    (0xb3e, "AA;I;II;U;UU;VOCALIC R;VOCALIC RR;;;E;AI;;;O;AU"), (0xb62, "VOCALIC L;VOCALIC LL")]⟩,
  ⟨"ORIYA ", [(0xb56, "AI LENGTH MARK;AU LENGTH MARK"), (0xb70, "ISSHAR")]⟩,
  ⟨"ORIYA DIGIT ", [(0xb66, "ZERO;ONE;TWO;THREE;FOUR;FIVE;SIX;SEVEN;EIGHT;NINE")]⟩,
  ⟨"ORIYA FRACTION ", [
    (0xb72, "ONE QUARTER;ONE HALF;THREE QUARTERS;ONE SIXTEENTH;ONE EIGHTH;THREE SIXTEENTHS")]⟩,
  ⟨"TAMIL ", [
    (0xb82, "SIGN ANUSVARA;SIGN VISARGA"), (0xbcd, "SIGN VIRAMA;;;OM;;;;;;;AU LENGTH MARK"),
    (0xbf3, "DAY SIGN;MONTH SIGN;YEAR SIGN;DEBIT SIGN;CREDIT SIGN;AS ABOVE SIGN;RUPEE SIGN")]⟩,
  ⟨"TAMIL LETTER ", [
    (0xb85, "A;AA;I;II;U;UU;;;;E;EE;AI;;O;OO;AU;KA;;;;NGA;CA;;JA;;NYA;TTA;;;;NNA;TA;;;;NA;NNNA"),
    (0xbaa, "PA;;;;MA;YA;RA;RRA;LA;LLA;LLLA;VA;SHA;SSA;SA;HA")]⟩,
  ⟨"TAMIL VOWEL SIGN ", [(0xbbe, "AA;I;II;U;UU;;;;E;EE;AI;;O;OO;AU")]⟩,
  ⟨"TAMIL DIGIT ", [(0xbe6, "ZERO;ONE;TWO;THREE;FOUR;FIVE;SIX;SEVEN;EIGHT;NINE")]⟩,
  ⟨"TAMIL NUMBER ", [(0xbf0, "TEN;ONE HUNDRED;ONE THOUSAND;;;;;;;;SIGN")]⟩,
  ⟨"TELUGU SIGN ", [
    (0xc00, "COMBINING CANDRABINDU ABOVE;CANDRABINDU;ANUSVARA;VISARGA;COMBINING ANUSVARA ABOVE"),
    (0xc3c, "NUKTA;AVAGRAHA"), (0xc4d, "VIRAMA"), (0xc77, "SIDDHAM;;;;;;;;TUUMU")]⟩,
  ⟨"TELUGU LETTER ", [
    (0xc05, "A;AA;I;II;U;UU;VOCALIC R;VOCALIC L;;E;EE;AI;;O;OO;AU;KA;KHA;GA;GHA;NGA;CA;CHA;JA"),
    (0xc1d, "JHA;NYA;TTA;TTHA;DDA;DDHA;NNA;TA;THA;DA;DHA;NA;;PA;PHA;BA;BHA;MA;YA;RA;RRA;LA;LLA"),
    (0xc34, "LLLA;VA;SHA;SSA;SA;HA"), (0xc58, "TSA;DZA;RRRA;;;NAKAARA POLLU;;;VOCALIC RR"),
    (0xc61, "VOCALIC LL")]⟩,
  ⟨"TELUGU VOWEL SIGN ", [
    (0xc3e, "AA;I;II;U;UU;VOCALIC R;VOCALIC RR;;E;EE;AI;;O;OO;AU"), (0xc62, "VOCALIC L"),
    (0xc63, "VOCALIC LL")]⟩,
  ⟨"TELUGU ", [(0xc55, "LENGTH MARK;AI LENGTH MARK")]⟩,
  ⟨"TELUGU DIGIT ", [(0xc66, "ZERO;ONE;TWO;THREE;FOUR;FIVE;SIX;SEVEN;EIGHT;NINE")]⟩,
  ⟨"TELUGU FRACTION DIGIT ", [
    (0xc78, "ZERO FOR ODD POWERS OF FOUR;ONE FOR ODD POWERS OF FOUR;TWO FOR ODD POWERS OF FOUR"),
    (0xc7b, "THREE FOR ODD POWERS OF FOUR;ONE FOR EVEN POWERS OF FOUR"),
    (0xc7d, "TWO FOR EVEN POWERS OF FOUR;THREE FOR EVEN POWERS OF FOUR")]⟩,
  ⟨"KANNADA SIGN ", [
    (0xc80, "SPACING CANDRABINDU;CANDRABINDU;ANUSVARA;VISARGA;SIDDHAM"), (0xcbc, "NUKTA"),
    (0xcbd, "AVAGRAHA"), (0xccd, "VIRAMA"), (0xcf1, "JIHVAMULIYA;UPADHMANIYA")]⟩,
  ⟨"KANNADA LETTER ", [
    (0xc85, "A;AA;I;II;U;UU;VOCALIC R;VOCALIC L;;E;EE;AI;;O;OO;AU;KA;KHA;GA;GHA;NGA;CA;CHA;JA"),
    (0xc9d, "JHA;NYA;TTA;TTHA;DDA;DDHA;NNA;TA;THA;DA;DHA;NA;;PA;PHA;BA;BHA;MA;YA;RA;RRA;LA;LLA"),
    (0xcb5, "VA;SHA;SSA;SA;HA"), (0xcdd, "NAKAARA POLLU;FA;;VOCALIC RR;VOCALIC LL")]⟩,
  ⟨"KANNADA VOWEL SIGN ", [
    (0xcbe, "AA;I;II;U;UU;VOCALIC R;VOCALIC RR;;E;EE;AI;;O;OO;AU"), (0xce2, "VOCALIC L"),
    (0xce3, "VOCALIC LL")]⟩,
  ⟨"KANNADA ", [(0xcd5, "LENGTH MARK;AI LENGTH MARK")]⟩,
  ⟨"KANNADA DIGIT ", [(0xce6, "ZERO;ONE;TWO;THREE;FOUR;FIVE;SIX;SEVEN;EIGHT;NINE")]⟩,
  ⟨"MALAYALAM SIGN ", [
    (0xd00, "COMBINING ANUSVARA ABOVE;CANDRABINDU;ANUSVARA;VISARGA"),
    (0xd3b, "VERTICAL BAR VIRAMA;CIRCULAR VIRAMA;AVAGRAHA"), (0xd4d, "VIRAMA;;PARA")]⟩,
  ⟨"MALAYALAM LETTER ", [
    (0xd04, "VEDIC ANUSVARA;A;AA;I;II;U;UU;VOCALIC R;VOCALIC L;;E;EE;AI;;O;OO;AU;KA;KHA;GA;GHA"),
    (0xd19, "NGA;CA;CHA;JA;JHA;NYA;TTA;TTHA;DDA;DDHA;NNA;TA;THA;DA;DHA;NA;NNNA;PA;PHA;BA;BHA;MA"),
    (0xd2f, "YA;RA;RRA;LA;LLA;LLLA;VA;SHA;SSA;SA;HA;TTTA"), (0xd4e, "DOT REPH"),
    (0xd5f, "ARCHAIC II;VOCALIC RR;VOCALIC LL")]⟩,
  ⟨"MALAYALAM VOWEL SIGN ", [
    (0xd3e, "AA;I;II;U;UU;VOCALIC R;VOCALIC RR;;E;EE;AI;;O;OO;AU"), (0xd62, "VOCALIC L"),
    (0xd63, "VOCALIC LL")]⟩,
  ⟨"MALAYALAM LETTER CHILLU ", [(0xd54, "M;Y;LLL"), (0xd7a, "NN;N;RR;L;LL;K")]⟩,
  ⟨"MALAYALAM ", [
    (0xd57, "AU LENGTH MARK"), (0xd70, "NUMBER TEN;NUMBER ONE HUNDRED;NUMBER ONE THOUSAND"),
    (0xd79, "DATE MARK")]⟩,
  ⟨"MALAYALAM FRACTION ONE ", [
    (0xd58, "ONE-HUNDRED-AND-SIXTIETH;FORTIETH;;TWENTIETH;TENTH;;FIFTH"), (0xd73, "QUARTER;HALF"),
    (0xd76, "SIXTEENTH;EIGHTH")]⟩,
  ⟨"MALAYALAM FRACTION ", [
    (0xd5a, "THREE EIGHTIETHS;;;THREE TWENTIETHS"), (0xd75, "THREE QUARTERS;;;THREE SIXTEENTHS")]⟩,
  ⟨"MALAYALAM DIGIT ", [(0xd66, "ZERO;ONE;TWO;THREE;FOUR;FIVE;SIX;SEVEN;EIGHT;NINE")]⟩,
  ⟨"SINHALA ", [
    (0xd81, "SIGN CANDRABINDU;SIGN ANUSVARAYA;SIGN VISARGAYA"), (0xdca, "SIGN AL-LAKUNA"),
    (0xdf4, "PUNCTUATION KUNDDALIYA")]⟩,
  ⟨"SINHALA LETTER ", [
    (0xd85, "AYANNA;AAYANNA;AEYANNA;AEEYANNA;IYANNA;IIYANNA;UYANNA;UUYANNA;IRUYANNA;IRUUYANNA"),
    (0xd8f, "ILUYANNA;ILUUYANNA;EYANNA;EEYANNA;AIYANNA;OYANNA;OOYANNA;AUYANNA"),
    (0xd9e, "KANTAJA NAASIKYAYA;SANYAKA GAYANNA;;;;;TAALUJA NAASIKYAYA"),
    (0xda5, "TAALUJA SANYOOGA NAAKSIKYAYA;SANYAKA JAYANNA;;;;;MUURDHAJA NAYANNA"),
    (0xdac, "SANYAKA DDAYANNA;;;;;DANTAJA NAYANNA;;SANYAKA DAYANNA;;;;;MAYANNA;AMBA BAYANNA"),
    (0xdba, "YAYANNA;RAYANNA;;DANTAJA LAYANNA;;;VAYANNA;TAALUJA SAYANNA;MUURDHAJA SAYANNA"),
    (0xdc3, "DANTAJA SAYANNA;HAYANNA;MUURDHAJA LAYANNA;FAYANNA")]⟩,
  ⟨"SINHALA LETTER ALPAPRAANA ", [
    (0xd9a, "KAYANNA;;GAYANNA;;;;CAYANNA;;JAYANNA;;;;;TTAYANNA;;DDAYANNA;;;;TAYANNA;;DAYANNA"),
    (0xdb4, "PAYANNA;;BAYANNA")]⟩,
  ⟨"SINHALA LETTER MAHAAPRAANA ", [
    (0xd9b, "KAYANNA;;GAYANNA;;;;CAYANNA;;JAYANNA;;;;;TTAYANNA;;DDAYANNA;;;;TAYANNA;;DAYANNA"),
    (0xdb5, "PAYANNA;;BAYANNA")]⟩,
  ⟨"SINHALA VOWEL SIGN ", [
    (0xdcf, "AELA-PILLA;KETTI AEDA-PILLA;DIGA AEDA-PILLA;KETTI IS-PILLA;DIGA IS-PILLA"),
    (0xdd4, "KETTI PAA-PILLA;;DIGA PAA-PILLA;;GAETTA-PILLA;KOMBUVA;DIGA KOMBUVA;KOMBU DEKA"),
    (0xddc, "KOMBUVA HAA AELA-PILLA;KOMBUVA HAA DIGA AELA-PILLA;KOMBUVA HAA GAYANUKITTA"),
    (0xddf, "GAYANUKITTA"), (0xdf2, "DIGA GAETTA-PILLA;DIGA GAYANUKITTA")]⟩,
  ⟨"SINHALA LITH DIGIT ", [(0xde6, "ZERO;ONE;TWO;THREE;FOUR;FIVE;SIX;SEVEN;EIGHT;NINE")]⟩,
  ⟨"THAI CHARACTER ", [
    (0xe01, "KO KAI;KHO KHAI;KHO KHUAT;KHO KHWAI;KHO KHON;KHO RAKHANG;NGO NGU;CHO CHAN"),
    (0xe09, "CHO CHING;CHO CHANG;SO SO;CHO CHOE;YO YING;DO CHADA;TO PATAK;THO THAN"),
    (0xe11, "THO NANGMONTHO;THO PHUTHAO;NO NEN;DO DEK;TO TAO;THO THUNG;THO THAHAN;THO THONG"),
    (0xe19, "NO NU;BO BAIMAI;PO PLA;PHO PHUNG;FO FA;PHO PHAN;FO FAN;PHO SAMPHAO;MO MA;YO YAK"),
    (0xe23, "RO RUA;RU;LO LING;LU;WO WAEN;SO SALA;SO RUSI;SO SUA;HO HIP;LO CHULA;O ANG"),
    (0xe2e, "HO NOKHUK;PAIYANNOI;;MAI HAN-AKAT"), (0xe3a, "PHINTHU"), (0xe45, "LAKKHANGYAO"),
    (0xe46, "MAIYAMOK;MAITAIKHU;MAI EK;MAI THO;MAI TRI;MAI CHATTAWA;THANTHAKHAT;NIKHAHIT"),
    (0xe4e, "YAMAKKAN;FONGMAN"), (0xe5a, "ANGKHANKHU;KHOMUT")]⟩,
  ⟨"THAI CHARACTER SARA ", [
    (0xe30, "A;;AA;AM;I;II;UE;UEE;U;UU;;;;;;;E;AE;O;AI MAIMUAN;AI MAIMALAI")]⟩,
  ⟨"THAI ", [(0xe3f, "CURRENCY SYMBOL BAHT")]⟩,
  ⟨"THAI DIGIT ", [(0xe50, "ZERO;ONE;TWO;THREE;FOUR;FIVE;SIX;SEVEN;EIGHT;NINE")]⟩,
  ⟨"LAO LETTER ", [
    (0xe81, "KO;KHO SUNG;;KHO TAM;;;NGO;CO;;SO TAM;;;NYO;;;;;;;DO;TO;THO SUNG;THO TAM;;NO;BO;PO"),
    (0xe9c, "PHO SUNG;FO TAM;PHO TAM;FO SUNG;;MO;YO;LO LING;;LO LOOT;;WO;SANSKRIT SHA"),
    (0xea9, "SANSKRIT SSA;SO SUNG;HO SUNG;;O;HO TAM"), (0xede, "KHMU GO;KHMU NYO")]⟩,
  ⟨"LAO LETTER PALI ", [
    (0xe86, "GHA;;;CHA;;;JHA;;NYA;TTA;TTHA;DDA;DDHA;NNA;;;;;DHA;;;;;;;;BHA"), (0xeac, "LLA")]⟩,
  ⟨"LAO ", [
    (0xeaf, "ELLIPSIS"), (0xeba, "SIGN PALI VIRAMA;;SEMIVOWEL SIGN LO;SEMIVOWEL SIGN NYO"),
    (0xec6, "KO LA;;TONE MAI EK;TONE MAI THO;TONE MAI TI;TONE MAI CATAWA;CANCELLATION MARK"),
    (0xecd, "NIGGAHITA"), (0xedc, "HO NO;HO MO")]⟩,
  ⟨"LAO VOWEL SIGN ", [(0xeb0, "A;MAI KAN;AA;AM;I;II;Y;YY;U;UU;;MAI KON;;;;;E;EI;O;AY;AI")]⟩,
  ⟨"LAO DIGIT ", [(0xed0, "ZERO;ONE;TWO;THREE;FOUR;FIVE;SIX;SEVEN;EIGHT;NINE")]⟩,
  ⟨"TIBETAN ", [
    (0xf00, "SYLLABLE OM"), (0xf15, "LOGOTYPE SIGN CHAD RTAGS;LOGOTYPE SIGN LHAG RTAGS"),
    (0xfbe, "KU RU KHA;KU RU KHA BZHI MIG CAN")]⟩,
  ⟨"TIBETAN MARK ", [
    (0xf01, "GTER YIG MGO TRUNCATED A;GTER YIG MGO -UM RNAM BCAD MA"),
    (0xf03, "GTER YIG MGO -UM GTER TSHEG MA;INITIAL YIG MGO MDUN MA;CLOSING YIG MGO SGAB MA"),
    (0xf06, "CARET YIG MGO PHUR SHAD MA;YIG MGO TSHEG SHAD MA;SBRUL SHAD;BSKUR YIG MGO"),
    (0xf0a, "BKA- SHOG YIG MGO;INTERSYLLABIC TSHEG;DELIMITER TSHEG BSTAR;SHAD;NYIS SHAD"),
    (0xf0f, "TSHEG SHAD;NYIS TSHEG SHAD;RIN CHEN SPUNGS SHAD;RGYA GRAM SHAD"),
    (0xf13, "CARET -DZUD RTAGS ME LONG CAN;GTER TSHEG"), (0xf34, "BSDUS RTAGS"),
    (0xf35, "NGAS BZUNG NYI ZLA;CARET -DZUD RTAGS BZHI MIG CAN;NGAS BZUNG SGOR RTAGS;CHE MGO"),
    (0xf39, "TSA -PHRU;GUG RTAGS GYON;GUG RTAGS GYAS;ANG KHANG GYON;ANG KHANG GYAS"),
    (0xf84, "HALANTA;PALUTA"), (0xfd0, "BSKA- SHOG GI MGO RGYAN;MNYAM YIG GI MGO RGYAN"),
    (0xfd2, "NYIS TSHEG;INITIAL BRDA RNYING YIG MGO MDUN MA;CLOSING BRDA RNYING YIG MGO SGAB MA"),
    (0xfd9, "LEADING MCHAN RTAGS;TRAILING MCHAN RTAGS")]⟩,
  ⟨"TIBETAN ASTROLOGICAL ", [
    (0xf17, "SIGN SGRA GCAN -CHAR RTAGS;SIGN -KHYUD PA;SIGN SDONG TSHUGS")]⟩,
  ⟨"TIBETAN SIGN RDEL ", [
    (0xf1a, "DKAR GCIG;DKAR GNYIS;DKAR GSUM;NAG GCIG;NAG GNYIS;DKAR RDEL NAG"),
    (0xfce, "NAG RDEL DKAR;NAG GSUM")]⟩,
  ⟨"TIBETAN DIGIT ", [(0xf20, "ZERO;ONE;TWO;THREE;FOUR;FIVE;SIX;SEVEN;EIGHT;NINE")]⟩,
  ⟨"TIBETAN DIGIT HALF ", [(0xf2a, "ONE;TWO;THREE;FOUR;FIVE;SIX;SEVEN;EIGHT;NINE;ZERO")]⟩,
  ⟨"TIBETAN SIGN ", [
    (0xf3e, "YAR TSHES;MAR TSHES"), (0xf7e, "RJES SU NGA RO;RNAM BCAD;;;NYI ZLA NAA DA;SNA LDAN"),
    (0xf86, "LCI RTAGS;YANG RTAGS;LCE TSA CAN;MCHU CAN;GRU CAN RGYINGS;GRU MED RGYINGS"),
    (0xf8c, "INVERTED MCHU CAN")]⟩,
  ⟨"TIBETAN LETTER ", [
    (0xf40, "KA;KHA;GA;GHA;NGA;CA;CHA;JA;;NYA;TTA;TTHA;DDA;DDHA;NNA;TA;THA;DA;DHA;NA;PA;PHA;BA"),
    (0xf57, "BHA;MA;TSA;TSHA;DZA;DZHA;WA;ZHA;ZA;-A;YA;RA;LA;SHA;SSA;SA;HA;A;KSSA;FIXED-FORM RA"),
    (0xf6b, "KKA;RRA")]⟩,
  ⟨"TIBETAN VOWEL SIGN ", [
    (0xf71, "AA;I;II;U;UU;VOCALIC R;VOCALIC RR;VOCALIC L;VOCALIC LL;E;EE;O;OO;;;REVERSED I"),
    (0xf81, "REVERSED II")]⟩,
  ⟨"TIBETAN SUBJOINED ", [(0xf8d, "SIGN LCE TSA CAN;SIGN MCHU CAN;SIGN INVERTED MCHU CAN")]⟩,
  ⟨"TIBETAN SUBJOINED LETTER ", [
    (0xf90, "KA;KHA;GA;GHA;NGA;CA;CHA;JA;;NYA;TTA;TTHA;DDA;DDHA;NNA;TA;THA;DA;DHA;NA;PA;PHA;BA"),
    (0xfa7, "BHA;MA;TSA;TSHA;DZA;DZHA;WA;ZHA;ZA;-A;YA;RA;LA;SHA;SSA;SA;HA;A;KSSA;FIXED-FORM WA"),
    (0xfbb, "FIXED-FORM YA;FIXED-FORM RA")]⟩,
  ⟨"TIBETAN CANTILLATION ", [
    (0xfc0, "SIGN HEAVY BEAT;SIGN LIGHT BEAT;SIGN CANG TE-U;SIGN SBUB -CHAL")]⟩,
  ⟨"TIBETAN SYMBOL ", [
    (0xfc4, "DRIL BU;RDO RJE;PADMA GDAN;RDO RJE RGYA GRAM;PHUR PA;NOR BU;NOR BU NYIS -KHYIL"),
    (0xfcb, "NOR BU GSUM -KHYIL;NOR BU BZHI -KHYIL")]⟩,
  ⟨"RIGHT-FACING ", [(0xfd5, "SVASTI SIGN;;SVASTI SIGN WITH DOTS")]⟩,
  ⟨"LEFT-FACING ", [(0xfd6, "SVASTI SIGN;;SVASTI SIGN WITH DOTS")]⟩,
  ⟨"MYANMAR LETTER ", [
    (0x1000, "KA;KHA;GA;GHA;NGA;CA;CHA;JA;JHA;NYA;NNYA;TTA;TTHA;DDA;DDHA;NNA;TA;THA;DA;DHA;NA"),
    (0x1015, "PA;PHA;BA;BHA;MA;YA;RA;LA;WA;SA;HA;LLA;A;;I;II;U;UU;E;MON E;O;AU"),
    (0x103f, "GREAT SA"), (0x1050, "SHA;SSA;VOCALIC R;VOCALIC RR;VOCALIC L;VOCALIC LL"),
    (0x105a, "MON NGA;MON JHA;MON BBA;MON BBE;;;;SGAW KAREN SHA;;;;WESTERN PWO KAREN THA"),
    (0x1066, "WESTERN PWO KAREN PWA;;;;;;;;EASTERN PWO KAREN NNA;EASTERN PWO KAREN YWA"),
    (0x1070, "EASTERN PWO KAREN GHWA"), (0x108e, "RUMAI PALAUNG FA")]⟩,
  ⟨"MYANMAR LETTER SHAN ", [(0x1022, "A"), (0x1075, "KA;KHA;GA;CA;ZA;NYA;DA;NA;PHA;FA;BA;THA;HA")]⟩,
  ⟨"MYANMAR VOWEL SIGN ", [
    (0x102b, "TALL AA;AA;I;II;U;UU;E;AI;MON II;MON O;E ABOVE"), (0x1056, "VOCALIC R;VOCALIC RR"),
    (0x1058, "VOCALIC L;VOCALIC LL"), (0x1062, "SGAW KAREN EU;;;;;WESTERN PWO KAREN EU"),
    (0x1068, "WESTERN PWO KAREN UE"), (0x1071, "GEBA KAREN I;KAYAH OE;KAYAH U;KAYAH EE"),
    (0x1083, "SHAN AA;SHAN E;SHAN E ABOVE;SHAN FINAL Y"), (0x109c, "AITON A;AITON AI")]⟩,
  ⟨"MYANMAR SIGN ", [
    (0x1036, "ANUSVARA;DOT BELOW;VISARGA;VIRAMA;ASAT"), (0x104a, "LITTLE SECTION;SECTION"),
    (0x108f, "RUMAI PALAUNG TONE-5"), (0x109a, "KHAMTI TONE-1;KHAMTI TONE-3")]⟩,
  ⟨"MYANMAR CONSONANT SIGN ", [
    (0x103b, "MEDIAL YA;MEDIAL RA;MEDIAL WA;MEDIAL HA"), (0x105e, "MON MEDIAL NA;MON MEDIAL MA"),
    (0x1060, "MON MEDIAL LA"), (0x1082, "SHAN MEDIAL WA")]⟩,
  ⟨"MYANMAR DIGIT ", [(0x1040, "ZERO;ONE;TWO;THREE;FOUR;FIVE;SIX;SEVEN;EIGHT;NINE")]⟩,
  ⟨"MYANMAR SYMBOL ", [
    (0x104c, "LOCATIVE;COMPLETED;AFOREMENTIONED;GENITIVE"), (0x109e, "SHAN ONE;SHAN EXCLAMATION")]⟩,
  ⟨"MYANMAR ", [(0x1063, "TONE MARK SGAW KAREN HATHI;TONE MARK SGAW KAREN KE PHO")]⟩,
  ⟨"MYANMAR SIGN WESTERN ", [
    (0x1069, "PWO KAREN TONE-1;PWO KAREN TONE-2;PWO KAREN TONE-3;PWO KAREN TONE-4"),
    (0x106d, "PWO KAREN TONE-5")]⟩,
  ⟨"MYANMAR SIGN SHAN ", [
    (0x1087, "TONE-2;TONE-3;TONE-5;TONE-6;COUNCIL TONE-2;COUNCIL TONE-3;COUNCIL EMPHATIC TONE")]⟩,
  ⟨"MYANMAR SHAN DIGIT ", [(0x1090, "ZERO;ONE;TWO;THREE;FOUR;FIVE;SIX;SEVEN;EIGHT;NINE")]⟩,
  ⟨"GEORGIAN CAPITAL LETTER ", [
    (0x10a0, "AN;BAN;GAN;DON;EN;VIN;ZEN;TAN;IN;KAN;LAS;MAN;NAR;ON;PAR;ZHAR;RAE;SAN;TAR;UN;PHAR"),
    (0x10b5, "KHAR;GHAN;QAR;SHIN;CHIN;CAN;JIL;CIL;CHAR;XAN;JHAN;HAE;HE;HIE;WE;HAR;HOE;;YN"),
    (0x10cd, "AEN")]⟩,
  ⟨"GEORGIAN LETTER ", [
    (0x10d0, "AN;BAN;GAN;DON;EN;VIN;ZEN;TAN;IN;KAN;LAS;MAN;NAR;ON;PAR;ZHAR;RAE;SAN;TAR;UN;PHAR"),
    (0x10e5, "KHAR;GHAN;QAR;SHIN;CHIN;CAN;JIL;CIL;CHAR;XAN;JHAN;HAE;HE;HIE;WE;HAR;HOE;FI;YN"),
    (0x10f8, "ELIFI;TURNED GAN;AIN;;;AEN;HARD SIGN;LABIAL SIGN")]⟩,
  ⟨"GEORGIAN ", [(0x10fb, "PARAGRAPH SEPARATOR")]⟩,
  ⟨"", [
    (0x10fc, "MODIFIER LETTER GEORGIAN NAR"), (0x1735, "PHILIPPINE SINGLE PUNCTUATION"),
    (0x1736, "PHILIPPINE DOUBLE PUNCTUATION")]⟩,
  ⟨"HANGUL CHOSEONG ", [
    (0x1100, "KIYEOK;SSANGKIYEOK;NIEUN;TIKEUT;SSANGTIKEUT;RIEUL;MIEUM;PIEUP;SSANGPIEUP;SIOS"),
    (0x110a, "SSANGSIOS;IEUNG;CIEUC;SSANGCIEUC;CHIEUCH;KHIEUKH;THIEUTH;PHIEUPH;HIEUH"),
    (0x1113, "NIEUN-KIYEOK;SSANGNIEUN;NIEUN-TIKEUT;NIEUN-PIEUP;TIKEUT-KIYEOK;RIEUL-NIEUN"),
    (0x1119, "SSANGRIEUL;RIEUL-HIEUH;KAPYEOUNRIEUL;MIEUM-PIEUP;KAPYEOUNMIEUM;PIEUP-KIYEOK"),
    (0x111f, "PIEUP-NIEUN;PIEUP-TIKEUT;PIEUP-SIOS;PIEUP-SIOS-KIYEOK;PIEUP-SIOS-TIKEUT"),
    (0x1124, "PIEUP-SIOS-PIEUP;PIEUP-SSANGSIOS;PIEUP-SIOS-CIEUC;PIEUP-CIEUC;PIEUP-CHIEUCH"),
    (0x1129, "PIEUP-THIEUTH;PIEUP-PHIEUPH;KAPYEOUNPIEUP;KAPYEOUNSSANGPIEUP;SIOS-KIYEOK"),
    (0x112e, "SIOS-NIEUN;SIOS-TIKEUT;SIOS-RIEUL;SIOS-MIEUM;SIOS-PIEUP;SIOS-PIEUP-KIYEOK"),
    (0x1134, "SIOS-SSANGSIOS;SIOS-IEUNG;SIOS-CIEUC;SIOS-CHIEUCH;SIOS-KHIEUKH;SIOS-THIEUTH"),
    (0x113a, "SIOS-PHIEUPH;SIOS-HIEUH;CHITUEUMSIOS;CHITUEUMSSANGSIOS;CEONGCHIEUMSIOS"),
    (0x113f, "CEONGCHIEUMSSANGSIOS;PANSIOS;IEUNG-KIYEOK;IEUNG-TIKEUT;IEUNG-MIEUM;IEUNG-PIEUP"),
    (0x1145, "IEUNG-SIOS;IEUNG-PANSIOS;SSANGIEUNG;IEUNG-CIEUC;IEUNG-CHIEUCH;IEUNG-THIEUTH"),
    (0x114b, "IEUNG-PHIEUPH;YESIEUNG;CIEUC-IEUNG;CHITUEUMCIEUC;CHITUEUMSSANGCIEUC"),
    (0x1150, "CEONGCHIEUMCIEUC;CEONGCHIEUMSSANGCIEUC;CHIEUCH-KHIEUKH;CHIEUCH-HIEUH"),
    (0x1154, "CHITUEUMCHIEUCH;CEONGCHIEUMCHIEUCH;PHIEUPH-PIEUP;KAPYEOUNPHIEUPH;SSANGHIEUH"),
    (0x1159, "YEORINHIEUH;KIYEOK-TIKEUT;NIEUN-SIOS;NIEUN-CIEUC;NIEUN-HIEUH;TIKEUT-RIEUL;FILLER")]⟩,
  ⟨"HANGUL JUNGSEONG ", [
    (0x1160, "FILLER;A;AE;YA;YAE;EO;E;YEO;YE;O;WA;WAE;OE;YO;U;WEO;WE;WI;YU;EU;YI;I;A-O;A-U;YA-O"),
    (0x1179, "YA-YO;EO-O;EO-U;EO-EU;YEO-O;YEO-U;O-EO;O-E;O-YE;O-O;O-U;YO-YA;YO-YAE;YO-YEO;YO-O"),
    (0x1188, "YO-I;U-A;U-AE;U-EO-EU;U-YE;U-U;YU-A;YU-EO;YU-E;YU-YEO;YU-YE;YU-U;YU-I;EU-U;EU-EU"),
    (0x1197, "YI-U;I-A;I-YA;I-O;I-U;I-EU;I-ARAEA;ARAEA;ARAEA-EO;ARAEA-U;ARAEA-I;SSANGARAEA;A-EU"),
    (0x11a4, "YA-U;YEO-YA;O-YA;O-YAE")]⟩,
  ⟨"HANGUL JONGSEONG ", [
    (0x11a8, "KIYEOK;SSANGKIYEOK;KIYEOK-SIOS;NIEUN;NIEUN-CIEUC;NIEUN-HIEUH;TIKEUT;RIEUL"),
    (0x11b0, "RIEUL-KIYEOK;RIEUL-MIEUM;RIEUL-PIEUP;RIEUL-SIOS;RIEUL-THIEUTH;RIEUL-PHIEUPH"),
    (0x11b6, "RIEUL-HIEUH;MIEUM;PIEUP;PIEUP-SIOS;SIOS;SSANGSIOS;IEUNG;CIEUC;CHIEUCH;KHIEUKH"),
    (0x11c0, "THIEUTH;PHIEUPH;HIEUH;KIYEOK-RIEUL;KIYEOK-SIOS-KIYEOK;NIEUN-KIYEOK;NIEUN-TIKEUT"),
    (0x11c7, "NIEUN-SIOS;NIEUN-PANSIOS;NIEUN-THIEUTH;TIKEUT-KIYEOK;TIKEUT-RIEUL"),
    (0x11cc, "RIEUL-KIYEOK-SIOS;RIEUL-NIEUN;RIEUL-TIKEUT;RIEUL-TIKEUT-HIEUH;SSANGRIEUL"),
    (0x11d1, "RIEUL-MIEUM-KIYEOK;RIEUL-MIEUM-SIOS;RIEUL-PIEUP-SIOS;RIEUL-PIEUP-HIEUH"),
    (0x11d5, "RIEUL-KAPYEOUNPIEUP;RIEUL-SSANGSIOS;RIEUL-PANSIOS;RIEUL-KHIEUKH;RIEUL-YEORINHIEUH"),
    (0x11da, "MIEUM-KIYEOK;MIEUM-RIEUL;MIEUM-PIEUP;MIEUM-SIOS;MIEUM-SSANGSIOS;MIEUM-PANSIOS"),
    (0x11e0, "MIEUM-CHIEUCH;MIEUM-HIEUH;KAPYEOUNMIEUM;PIEUP-RIEUL;PIEUP-PHIEUPH;PIEUP-HIEUH"),
    (0x11e6, "KAPYEOUNPIEUP;SIOS-KIYEOK;SIOS-TIKEUT;SIOS-RIEUL;SIOS-PIEUP;PANSIOS;IEUNG-KIYEOK"),
    (0x11ed, "IEUNG-SSANGKIYEOK;SSANGIEUNG;IEUNG-KHIEUKH;YESIEUNG;YESIEUNG-SIOS"),
    (0x11f2, "YESIEUNG-PANSIOS;PHIEUPH-PIEUP;KAPYEOUNPHIEUPH;HIEUH-NIEUN;HIEUH-RIEUL"),
    (0x11f7, "HIEUH-MIEUM;HIEUH-PIEUP;YEORINHIEUH;KIYEOK-NIEUN;KIYEOK-PIEUP;KIYEOK-CHIEUCH"),
    (0x11fd, "KIYEOK-KHIEUKH;KIYEOK-HIEUH;SSANGNIEUN")]⟩,
  ⟨"ETHIOPIC SYLLABLE ", [
    (0x1200, "HA;HU;HI;HAA;HEE;HE;HO;HOA;LA;LU;LI;LAA;LEE;LE;LO;LWA;HHA;HHU;HHI;HHAA;HHEE;HHE"),
    (0x1216, "HHO;HHWA;MA;MU;MI;MAA;MEE;ME;MO;MWA;SZA;SZU;SZI;SZAA;SZEE;SZE;SZO;SZWA;RA;RU;RI"),
    (0x122b, "RAA;REE;RE;RO;RWA;SA;SU;SI;SAA;SEE;SE;SO;SWA;SHA;SHU;SHI;SHAA;SHEE;SHE;SHO;SHWA"),
    (0x1240, "QA;QU;QI;QAA;QEE;QE;QO;QOA;QWA;;QWI;QWAA;QWEE;QWE;;;QHA;QHU;QHI;QHAA;QHEE;QHE;QHO"),
    (0x1258, "QHWA;;QHWI;QHWAA;QHWEE;QHWE;;;BA;BU;BI;BAA;BEE;BE;BO;BWA;VA;VU;VI;VAA;VEE;VE;VO"),
    (0x126f, "VWA;TA;TU;TI;TAA;TEE;TE;TO;TWA;CA;CU;CI;CAA;CEE;CE;CO;CWA;XA;XU;XI;XAA;XEE;XE;XO"),
    (0x1287, "XOA;XWA;;XWI;XWAA;XWEE;XWE;;;NA;NU;NI;NAA;NEE;NE;NO;NWA;NYA;NYU;NYI;NYAA;NYEE;NYE"),
    (0x129e, "NYO;NYWA"), (0x12a8, "KA;KU;KI;KAA;KEE;KE;KO;KOA;KWA;;KWI;KWAA;KWEE;KWE;;;KXA;KXU"),
    (0x12ba, "KXI;KXAA;KXEE;KXE;KXO;;KXWA;;KXWI;KXWAA;KXWEE;KXWE;;;WA;WU;WI;WAA;WEE;WE;WO;WOA"),
    (0x12d8, "ZA;ZU;ZI;ZAA;ZEE;ZE;ZO;ZWA;ZHA;ZHU;ZHI;ZHAA;ZHEE;ZHE;ZHO;ZHWA;YA;YU;YI;YAA;YEE;YE"),
    (0x12ee, "YO;YOA;DA;DU;DI;DAA;DEE;DE;DO;DWA;DDA;DDU;DDI;DDAA;DDEE;DDE;DDO;DDWA;JA;JU;JI;JAA"),
    (0x1304, "JEE;JE;JO;JWA;GA;GU;GI;GAA;GEE;GE;GO;GOA;GWA;;GWI;GWAA;GWEE;GWE;;;GGA;GGU;GGI"),
    (0x131b, "GGAA;GGEE;GGE;GGO;GGWAA;THA;THU;THI;THAA;THEE;THE;THO;THWA;CHA;CHU;CHI;CHAA;CHEE"),
    (0x132d, "CHE;CHO;CHWA;PHA;PHU;PHI;PHAA;PHEE;PHE;PHO;PHWA;TSA;TSU;TSI;TSAA;TSEE;TSE;TSO"),
    (0x133f, "TSWA;TZA;TZU;TZI;TZAA;TZEE;TZE;TZO;TZOA;FA;FU;FI;FAA;FEE;FE;FO;FWA;PA;PU;PI;PAA"),
    (0x1354, "PEE;PE;PO;PWA;RYA;MYA;FYA"), (0x1381, "MWI;MWEE;MWE;;BWI;BWEE;BWE;;FWI;FWEE;FWE"),
    (0x138d, "PWI;PWEE;PWE")]⟩,
  ⟨"ETHIOPIC SYLLABLE GLOTTAL ", [(0x12a0, "A;U;I;AA;EE;E;O;WA")]⟩,
  ⟨"ETHIOPIC SYLLABLE PHARYNGEAL ", [(0x12d0, "A;U;I;AA;EE;E;O")]⟩,
  ⟨"ETHIOPIC ", [
    (0x135d, "COMBINING GEMINATION AND VOWEL LENGTH MARK;COMBINING VOWEL LENGTH MARK"),
    (0x135f, "COMBINING GEMINATION MARK;SECTION MARK;WORDSPACE;FULL STOP;COMMA;SEMICOLON;COLON"),
    (0x1366, "PREFACE COLON;QUESTION MARK;PARAGRAPH SEPARATOR")]⟩,
  ⟨"ETHIOPIC DIGIT ", [(0x1369, "ONE;TWO;THREE;FOUR;FIVE;SIX;SEVEN;EIGHT;NINE")]⟩,
  ⟨"ETHIOPIC NUMBER ", [
    (0x1372, "TEN;TWENTY;THIRTY;FORTY;FIFTY;SIXTY;SEVENTY;EIGHTY;NINETY;HUNDRED;TEN THOUSAND")]⟩,
  ⟨"ETHIOPIC SYLLABLE SEBATBEIT ", [(0x1380, "MWA;;;;BWA;;;;FWA;;;;PWA")]⟩,
  ⟨"ETHIOPIC TONAL MARK ", [
    (0x1390, "YIZET;DERET;RIKRIK;SHORT RIKRIK;DIFAT;KENAT;CHIRET;HIDET;DERET-HIDET;KURT")]⟩,
  ⟨"CHEROKEE LETTER ", [
    (0x13a0, "A;E;I;O;U;V;GA;KA;GE;GI;GO;GU;GV;HA;HE;HI;HO;HU;HV;LA;LE;LI;LO;LU;LV;MA;ME;MI;MO"),
    (0x13bd, "MU;NA;HNA;NAH;NE;NI;NO;NU;NV;QUA;QUE;QUI;QUO;QUU;QUV;SA;S;SE;SI;SO;SU;SV;DA;TA;DE"),
    (0x13d6, "TE;DI;TI;DO;DU;DV;DLA;TLA;TLE;TLI;TLO;TLU;TLV;TSA;TSE;TSI;TSO;TSU;TSV;WA;WE;WI;WO"),
    (0x13ed, "WU;WV;YA;YE;YI;YO;YU;YV;MV")]⟩,
  ⟨"CHEROKEE SMALL LETTER ", [(0x13f8, "YE;YI;YO;YU;YV;MV")]⟩,
  ⟨"CANADIAN SYLLABICS ", [
    (0x1400, "HYPHEN;E;AAI;I;II;O;OO;;;;A;AA;WE;;WI;;WII;;WO;;WOO;;;WA;;WAA;;;AI;;GLOTTAL STOP"),
    (0x142b, "EN;IN;ON;AN;PE;PAAI;PI;PII;PO;POO;;;;PA;PAA;PWE;;PWI;;PWII;;PWO;;PWOO;;PWA;;PWAA"),
    (0x1449, "P;;;TE;TAAI;TI;TII;TO;TOO;;;;TA;TAA;TWE;;TWI;;TWII;;TWO;;TWOO;;TWA;;TWAA;;;T;TTE"),
    (0x1468, "TTI;TTO;TTA;KE;KAAI;KI;KII;KO;KOO;;KA;KAA;KWE;;KWI;;KWII;;KWO;;KWOO;;KWA;;KWAA"),
    (0x1483, "K;KW;;;;;CE;CAAI;CI;CII;CO;COO;;CA;CAA;CWE;;CWI;;CWII;;CWO;;CWOO;;CWA;;CWAA;;;C"),
    (0x14a3, "ME;MAAI;MI;MII;MO;MOO;;MA;MAA;MWE;;MWI;;MWII;;MWO;;MWOO;;MWA;;MWAA;;;M;;MH"),
    (0x14be, "ATHAPASCAN M;;NE;NAAI;NI;NII;NO;NOO;;NA;NAA;NWE;;NWA;;NWAA;;;N;;NH;LE;LAAI;LI;LII"),
    (0x14d7, "LO;LOO;;LA;LAA;LWE;;LWI;;LWII;;LWO;;LWOO;;LWA;;LWAA;;L;;MEDIAL L;SE;SAAI;SI;SII"),
    (0x14f1, "SO;SOO;;SA;SAA;SWE;;SWI;;SWII;;SWO;;SWOO;;SWA;;SWAA;;;S;ATHAPASCAN S;SW"),
    (0x1509, "MOOSE-CREE SK;;;;;;;SHE;SHI;SHII;SHO;SHOO;SHA;SHAA;SHWE;;SHWI;;SHWII;;SHWO;;SHWOO"),
    (0x1521, "SHWA;;SHWAA;;SH;YE;YAAI;YI;YII;YO;YOO;;YA;YAA;YWE;;YWI;;YWII;;YWO;;YWOO;;YWA"),
    (0x153b, "YWAA;;;Y;BIBLE-CREE Y;;;RE;R-CREE RE;;RAAI;RI;RII;RO;ROO;;RA;RAA;;RWAA;;R"),
    (0x1552, "MEDIAL R;FE;FAAI;FI;FII;FO;FOO;FA;FAA;FWAA;;F;THE;N-CREE THE;THI;N-CREE THI;THII"),
    (0x1563, "N-CREE THII;THO;THOO;THA;THAA;THWAA;;TH;TTHE;TTHI;TTHO;TTHA;TTH;TYE;TYI;TYO;TYA"),
    (0x157c, "NUNAVUT H;HK;QAAI;QI;QII;QO;QOO;QA;QAA;Q;TLHE;TLHI;TLHO;TLHA;;;;;NGAAI;NGI;NGII"),
    (0x1591, "NGO;NGOO;NGA;NGAA;NG;NNG"), (0x15a0, "LHI;LHII;LHO;LHOO;LHA;LHAA;LH"),
    (0x15af, "AIVILIK B"), (0x166d, "CHI SIGN;FULL STOP;QAI;NGAI;NNGI;NNGII;NNGO;NNGOO;NNGA"),
    (0x1676, "NNGAA"), (0x18b0, "OY;AY;AAY;WAY;POY;PAY;PWOY;TAY;KAY;KWAY;MAY;NOY;NAY;LAY;SOY"),
    (0x18bf, "SAY;SHOY;SHAY;SHWOY;YOY;YAY;RAY;NWI;;NWII;;NWO;;NWOO;;RWEE;RWI;RWII;RWO;RWOO;RWA"),
    (0x18dc, "EASTERN W;WESTERN W;;;R-CREE RWE;;;THWE;THWA;TTHWE;TTHOO;TTHAA;TLHWE;TLHOO"),
    (0x18f3, "BEAVER DENE L;BEAVER DENE R")]⟩,
  ⟨"CANADIAN SYLLABICS Y-CREE ", [
    (0x1407, "OO"), (0x141d, "W"), (0x1435, "POO"), (0x1448, "PWAA"), (0x1452, "TOO"),
    (0x1471, "KOO"), (0x148f, "COO"), (0x14a9, "MOO"), (0x14c6, "NOO"), (0x14d9, "LOO"),
    (0x14f3, "SOO"), (0x152c, "YOO")]⟩,
  ⟨"CANADIAN SYLLABICS CARRIER ", [
    (0x1408, "EE;I"), (0x1436, "HEE;HI"), (0x144b, "H;;;;;;;;DEE;DI"), (0x14d1, "NG"),
    (0x15c4, "GHU;GHO;GHE;GHEE;GHI;GHA;RU;RO;RE;REE;RI;RA;WU;WO;WE;WEE;WI;WA;HWU;HWO;HWE;HWEE"),
    (0x15da, "HWI;HWA;THU;THO;THE;THEE;THI;THA;TTU;TTO;TTE;TTEE;TTI;TTA;PU;PO;PE;PEE;PI;PA;P;GU"),
    (0x15f0, "GO;GE;GEE;GI;GA;KHU;KHO;KHE;KHEE;KHI;KHA;KKU;KKO;KKE;KKEE;KKI;KKA;KK;NU;NO;NE;NEE"),
    (0x1606, "NI;NA;MU;MO;ME;MEE;MI;MA;YU;YO;YE;YEE;YI;YA;JU;;JO;JE;JEE;JI;;JA;JJU;JJO;JJE;JJEE"),
    (0x1620, "JJI;JJA;LU;LO;LE;LEE;LI;LA;DLU;DLO;DLE;DLEE;DLI;DLA;LHU;LHO;LHE;LHEE;LHI;LHA;TLHU"),
    (0x1635, "TLHO;TLHE;TLHEE;TLHI;TLHA;TLU;TLO;TLE;TLEE;TLI;TLA;ZU;ZO;ZE;ZEE;ZI;ZA;Z;INITIAL Z"),
    (0x1648, "DZU;DZO;DZE;DZEE;DZI;DZA;SU;SO;SE;SEE;SI;SA;SHU;SHO;SHE;SHEE;SHI;SHA;SH;TSU;TSO"),
    (0x165d, "TSE;TSEE;TSI;TSA;CHU;CHO;CHE;CHEE;CHI;CHA;TTSU;TTSO;TTSE;TTSEE;TTSI;TTSA"),
    (0x18ed, "GWU;DENE GEE;GAA;GWA;;JWA;;;DENTAL S")]⟩,
  ⟨"CANADIAN SYLLABICS WEST-CREE ", [
    (0x140d, "WE;;WI;;WII;;WO;;WOO;;;WA;;WAA"), (0x143b, "PWE;;PWI;;PWII;;PWO;;PWOO;;PWA;;PWAA"),
    (0x144a, "P"), (0x1458, "TWE;;TWI;;TWII;;TWO;;TWOO;;TWA;;TWAA"), (0x1475, "KWE;;KWI;;KWII"),
    (0x147b, "KWO;;KWOO;;KWA;;KWAA"), (0x1493, "CWE;;CWI;;CWII;;CWO;;CWOO;;CWA;;CWAA"),
    (0x14ad, "MWE;;MWI;;MWII;;MWO;;MWOO;;MWA;;MWAA;;;M"), (0x14ca, "NWE;;NWA;;NWAA"),
    (0x14dd, "LWE;;LWI;;LWII;;LWO;;LWOO;;LWA;;LWAA;;L"), (0x14f7, "SWE;;SWI;;SWII;;SWO;;SWOO"),
    (0x1501, "SWA;;SWAA"), (0x1518, "SHWE;;SHWI;;SHWII;;SHWO;;SHWOO;;SHWA;;SHWAA"),
    (0x1530, "YWE;;YWI;;YWII;;YWO;;YWOO;;YWA;;YWAA;;;;Y;;;;LE;;;;;;LO;;;LA;;RWAA;;R"),
    (0x155c, "FWAA"), (0x1569, "THWAA"), (0x158a, "RE;RI;RO;RA"), (0x18e1, "LOO;LAA")]⟩,
  ⟨"CANADIAN SYLLABICS NASKAPI ", [
    (0x1416, "WOO;;;;;WAA"), (0x1465, "TWAA"), (0x1482, "KWAA"), (0x14a0, "CWAA"),
    (0x14ba, "MWAA"), (0x14cf, "NWAA"), (0x1504, "SWAA;;;;;;SKW;S-W;SPWA;STWA;SKWA;SCWA"),
    (0x153d, "YWAA")]⟩,
  ⟨"CANADIAN SYLLABICS FINAL ", [
    (0x141f, "ACUTE;GRAVE;BOTTOM HALF RING;TOP HALF RING;RIGHT HALF RING;RING;DOUBLE ACUTE"),
    (0x1426, "DOUBLE SHORT VERTICAL STROKES;MIDDLE DOT;SHORT HORIZONTAL STROKE;PLUS;DOWN TACK"),
    (0x18de, "SMALL RING;RAISED DOT")]⟩,
  ⟨"CANADIAN SYLLABICS SOUTH-SLAVEY ", [(0x1485, "KEH;KIH;KOH;KAH")]⟩,
  ⟨"CANADIAN SYLLABICS SAYISI ", [
    (0x14a2, "TH"), (0x14bf, "M"), (0x1541, "YI"), (0x1597, "SHE;SHI;SHO;SHA"), (0x15c0, "HE;HI"),
    (0x15c2, "HO;HA"), (0x1615, "JU;;;;;JI"), (0x18ea, "SHWE;SHOO;HOO;;;;;JUU")]⟩,
  ⟨"CANADIAN SYLLABICS BLACKFOOT ", [
    (0x1508, "S"), (0x15b0, "E;I;O;A;WE;WI;WO;WA;NE;NI;NO;NA;KE;KI;KO;KA"), (0x167f, "W")]⟩,
  ⟨"CANADIAN SYLLABICS NUNAVIK ", [(0x1574, "HE;HI;HII;HO;HOO;HA;HAA;H")]⟩,
  ⟨"CANADIAN SYLLABICS WOODS-CREE ", [
    (0x159b, "THE;THI;THO;THA;TH"), (0x1677, "THWEE;THWI;THWII;THWO;THWOO;THWA;THWAA;FINAL TH")]⟩,
  ⟨"CANADIAN SYLLABICS TH-CREE ", [(0x15a7, "THE;THI;THII;THO;THOO;THA;THAA;TH")]⟩,
  ⟨"OGHAM ", [(0x1680, "SPACE MARK"), (0x169b, "FEATHER MARK;REVERSED FEATHER MARK")]⟩,
  ⟨"OGHAM LETTER ", [
    (0x1681, "BEITH;LUIS;FEARN;SAIL;NION;UATH;DAIR;TINNE;COLL;CEIRT;MUIN;GORT;NGEADAL;STRAIF"),
    (0x168f, "RUIS;AILM;ONN;UR;EADHADH;IODHADH;EABHADH;OR;UILLEANN;IFIN;EAMHANCHOLL;PEITH")]⟩,
  ⟨"RUNIC LETTER ", [
    (0x16a0, "FEHU FEOH FE F;V;URUZ UR U;YR;Y;W;THURISAZ THURS THORN;ETH;ANSUZ A;OS O;AC A;AESC"),
    (0x16ac, "LONG-BRANCH-OSS O;SHORT-TWIG-OSS O;O;OE;ON;RAIDO RAD REID R;KAUNA;CEN;KAUN K;G"),
    (0x16b6, "ENG;GEBO GYFU G;GAR;WUNJO WYNN W;HAGLAZ H;HAEGL H;LONG-BRANCH-HAGALL H"),
    (0x16bd, "SHORT-TWIG-HAGALL H;NAUDIZ NYD NAUD N;SHORT-TWIG-NAUD N;DOTTED-N;ISAZ IS ISS I;E"),
    (0x16c3, "JERAN J;GER;LONG-BRANCH-AR AE;SHORT-TWIG-AR A;IWAZ EOH;PERTHO PEORTH P"),
    (0x16c9, "ALGIZ EOLHX;SOWILO S;SIGEL LONG-BRANCH-SOL S;SHORT-TWIG-SOL S;C;Z;TIWAZ TIR TYR T"),
    (0x16d0, "SHORT-TWIG-TYR T;D;BERKANAN BEORC BJARKAN B;SHORT-TWIG-BJARKAN B;DOTTED-P;OPEN-P"),
    (0x16d6, "EHWAZ EH E;MANNAZ MAN M;LONG-BRANCH-MADR M;SHORT-TWIG-MADR M;LAUKAZ LAGU LOGR L"),
    (0x16db, "DOTTED-L;INGWAZ;ING;DAGAZ DAEG D;OTHALAN ETHEL O;EAR;IOR;CWEORTH;CALC;CEALC;STAN"),
    (0x16e6, "LONG-BRANCH-YR;SHORT-TWIG-YR;ICELANDIC-YR;Q;X;;;;;;;K;SH;OO")]⟩,
  ⟨"RUNIC ", [
    (0x16eb, "SINGLE PUNCTUATION;MULTIPLE PUNCTUATION;CROSS PUNCTUATION;ARLAUG SYMBOL"),
    (0x16ef, "TVIMADUR SYMBOL;BELGTHOR SYMBOL")]⟩,
  ⟨"RUNIC LETTER FRANKS ", [(0x16f4, "CASKET OS;CASKET IS;CASKET EH;CASKET AC;CASKET AESC")]⟩,
  ⟨"TAGALOG LETTER ", [
    (0x1700, "A;I;U;KA;GA;NGA;TA;DA;NA;PA;BA;MA;YA;RA;LA;WA;SA;HA"), (0x171f, "ARCHAIC RA")]⟩,
  ⟨"TAGALOG ", [(0x1712, "VOWEL SIGN I;VOWEL SIGN U;SIGN VIRAMA;SIGN PAMUDPOD")]⟩,
  ⟨"HANUNOO LETTER ", [(0x1720, "A;I;U;KA;GA;NGA;TA;DA;NA;PA;BA;MA;YA;RA;LA;WA;SA;HA")]⟩,
  ⟨"HANUNOO ", [(0x1732, "VOWEL SIGN I;VOWEL SIGN U;SIGN PAMUDPOD")]⟩,
  ⟨"BUHID LETTER ", [(0x1740, "A;I;U;KA;GA;NGA;TA;DA;NA;PA;BA;MA;YA;RA;LA;WA;SA;HA")]⟩,
  ⟨"BUHID ", [(0x1752, "VOWEL SIGN I;VOWEL SIGN U")]⟩,
  ⟨"TAGBANWA LETTER ", [(0x1760, "A;I;U;KA;GA;NGA;TA;DA;NA;PA;BA;MA;YA;;LA;WA;SA")]⟩,
  ⟨"TAGBANWA ", [(0x1772, "VOWEL SIGN I;VOWEL SIGN U")]⟩,
  ⟨"KHMER LETTER ", [
    (0x1780, "KA;KHA;KO;KHO;NGO;CA;CHA;CO;CHO;NYO;DA;TTHA;DO;TTHO;NNO;TA;THA;TO;THO;NO;BA;PHA"),
    (0x1796, "PO;PHO;MO;YO;RO;LO;VO;SHA;SSO;SA;HA;LA;QA")]⟩,
  ⟨"KHMER INDEPENDENT VOWEL ", [
    (0x17a3, "QAQ;QAA;QI;QII;QU;QUK;QUU;QUUV;RY;RYY;LY;LYY;QE;QAI;QOO TYPE ONE;QOO TYPE TWO;QAU")]⟩,
  ⟨"KHMER VOWEL ", [(0x17b4, "INHERENT AQ;INHERENT AA")]⟩,
  ⟨"KHMER VOWEL SIGN ", [(0x17b6, "AA;I;II;Y;YY;U;UU;UA;OE;YA;IE;E;AE;AI;OO;AU")]⟩,
  ⟨"KHMER SIGN ", [
    (0x17c6, "NIKAHIT;REAHMUK;YUUKALEAPINTU;MUUSIKATOAN;TRIISAP;BANTOC;ROBAT;TOANDAKHIAT"),
    (0x17ce, "KAKABAT;AHSDA;SAMYOK SANNYA;VIRIAM;COENG;BATHAMASAT;KHAN;BARIYOOSAN"),
    (0x17d6, "CAMNUC PII KUUH;LEK TOO;BEYYAL;PHNAEK MUAN;KOOMUUT;;AVAKRAHASANYA;ATTHACAN")]⟩,
  ⟨"KHMER ", [(0x17db, "CURRENCY SYMBOL RIEL")]⟩,
  ⟨"KHMER DIGIT ", [(0x17e0, "ZERO;ONE;TWO;THREE;FOUR;FIVE;SIX;SEVEN;EIGHT;NINE")]⟩,
  ⟨"KHMER SYMBOL LEK ATTAK ", [
    (0x17f0, "SON;MUOY;PII;BEI;BUON;PRAM;PRAM-MUOY;PRAM-PII;PRAM-BEI;PRAM-BUON")]⟩,
  ⟨"MONGOLIAN ", [
    (0x1800, "BIRGA;ELLIPSIS;COMMA;FULL STOP;COLON;FOUR DOTS;TODO SOFT HYPHEN"),
    (0x1807, "SIBE SYLLABLE BOUNDARY MARKER;MANCHU COMMA;MANCHU FULL STOP;NIRUGU"),
    (0x180e, "VOWEL SEPARATOR")]⟩,
  ⟨"MONGOLIAN FREE VARIATION ", [
    (0x180b, "SELECTOR ONE;SELECTOR TWO;SELECTOR THREE;;SELECTOR FOUR")]⟩,
  ⟨"MONGOLIAN DIGIT ", [(0x1810, "ZERO;ONE;TWO;THREE;FOUR;FIVE;SIX;SEVEN;EIGHT;NINE")]⟩,
  ⟨"MONGOLIAN LETTER ", [
    (0x1820, "A;E;I;O;U;OE;UE;EE;NA;ANG;BA;PA;QA;GA;MA;LA;SA;SHA;TA;DA;CHA;JA;YA;RA;WA;FA;KA"),
    (0x183b, "KHA;TSA;ZA;HAA;ZRA;LHA;ZHI;CHI"), (0x1878, "CHA WITH TWO DOTS")]⟩,
  ⟨"MONGOLIAN LETTER TODO ", [
    (0x1843, "LONG VOWEL SIGN;E;I;O;U;OE;UE;ANG;BA;PA;QA;GA;MA;TA;DA;CHA;JA;TSA;YA;WA;KA;GAA"),
    (0x1859, "HAA;JIA;NIA;DZA"), (0x1898, "ALI GALI TA;ALI GALI ZHA")]⟩,
  ⟨"MONGOLIAN LETTER SIBE ", [
    (0x185d, "E;I;IY;UE;U;ANG;KA;GA;HA;PA;SHA;TA;DA;JA;FA;GAA;HAA;TSA;ZA;RAA;CHA;ZHA")]⟩,
  ⟨"MONGOLIAN LETTER MANCHU ", [(0x1873, "I;KA;RA;FA;ZHA")]⟩,
  ⟨"MONGOLIAN LETTER ALI GALI ", [
    (0x1880, "ANUSVARA ONE;VISARGA ONE;DAMARU;UBADAMA;INVERTED UBADAMA;BALUDA;THREE BALUDA;A;I"),
    (0x1889, "KA;NGA;CA;TTA;TTHA;DDA;NNA;TA;DA;PA;PHA;SSA;ZHA;ZA;AH"), (0x18a6, "HALF U;HALF YA"),
    (0x18a9, "DAGALGA")]⟩,
  ⟨"MONGOLIAN LETTER MANCHU ALI GALI ", [
    (0x189a, "GHA;NGA;CA;JHA;TTA;DDHA;TA;DHA;SSA;CYA;ZHA;ZA;;;BHA;;LHA")]⟩,
  ⟨"CANADIAN SYLLABICS OJIBWAY ", [(0x18c7, "NWI;;NWII;;NWO;;NWOO;;;;;;;P;T;K;C;M;N;S;SH")]⟩,
  ⟨"LIMBU ", [
    (0x1900, "VOWEL-CARRIER LETTER"), (0x1939, "SIGN MUKPHRENG;SIGN KEMPHRENG;SIGN SA-I"),
    (0x1940, "SIGN LOO;;;;EXCLAMATION MARK;QUESTION MARK")]⟩,
  ⟨"LIMBU LETTER ", [
    (0x1901, "KA;KHA;GA;GHA;NGA;CA;CHA;JA;JHA;YAN;TA;THA;DA;DHA;NA;PA;PHA;BA;BHA;MA;YA;RA;LA;WA"),
    (0x1919, "SHA;SSA;SA;HA;GYAN;TRA")]⟩,
  ⟨"LIMBU VOWEL SIGN ", [(0x1920, "A;I;U;EE;AI;OO;AU;E;O")]⟩,
  ⟨"LIMBU SUBJOINED ", [(0x1929, "LETTER YA;LETTER RA;LETTER WA")]⟩,
  ⟨"LIMBU SMALL LETTER ", [(0x1930, "KA;NGA;ANUSVARA;TA;NA;PA;MA;RA;LA")]⟩,
  ⟨"LIMBU DIGIT ", [(0x1946, "ZERO;ONE;TWO;THREE;FOUR;FIVE;SIX;SEVEN;EIGHT;NINE")]⟩,
  ⟨"TAI LE LETTER ", [
    (0x1950, "KA;XA;NGA;TSA;SA;YA;TA;THA;LA;PA;PHA;MA;FA;VA;HA;QA;KHA;TSHA;NA;A;I;EE;EH;U;OO;O"),
    (0x196a, "UE;E;AUE;AI;;;TONE-2;TONE-3;TONE-4;TONE-5;TONE-6")]⟩,
  ⟨"NEW TAI LUE LETTER HIGH ", [
    (0x1980, "QA;;KA;XA;NGA;;;;TSA;SA;YA;;;;TA;THA;NA;;;;PA;PHA;MA;;;;FA;VA;LA;;;;HA;DA;BA"),
    (0x19a6, "KVA;XVA;;;SUA")]⟩,
  ⟨"NEW TAI LUE LETTER LOW ", [
    (0x1981, "QA;;;;KA;XA;NGA;;;;TSA;SA;YA;;;;TA;THA;NA;;;;PA;PHA;MA;;;;FA;VA;LA;;;;HA;DA;BA"),
    (0x19a8, "KVA;XVA;;SUA")]⟩,
  ⟨"NEW TAI LUE VOWEL SIGN ", [
    (0x19b0, "VOWEL SHORTENER;AA;II;U;UU;E;AE;O;OA;UE;AY;AAY;UY;OY;OAY;UEY;IY")]⟩,
  ⟨"NEW TAI LUE LETTER FINAL ", [(0x19c1, "V;NG;N;M;K;D;B")]⟩,
  ⟨"NEW TAI LUE ", [
    (0x19c8, "TONE MARK-1;TONE MARK-2"), (0x19da, "THAM DIGIT ONE;;;;SIGN LAE;SIGN LAEV")]⟩,
  ⟨"NEW TAI LUE DIGIT ", [(0x19d0, "ZERO;ONE;TWO;THREE;FOUR;FIVE;SIX;SEVEN;EIGHT;NINE")]⟩,
  ⟨"KHMER SYMBOL ", [
    (0x19e0, "PATHAMASAT;MUOY KOET;PII KOET;BEI KOET;BUON KOET;PRAM KOET;PRAM-MUOY KOET"),
    (0x19e7, "PRAM-PII KOET;PRAM-BEI KOET;PRAM-BUON KOET;DAP KOET;DAP-MUOY KOET;DAP-PII KOET"),
    (0x19ed, "DAP-BEI KOET;DAP-BUON KOET;DAP-PRAM KOET;TUTEYASAT;MUOY ROC;PII ROC;BEI ROC"),
    (0x19f4, "BUON ROC;PRAM ROC;PRAM-MUOY ROC;PRAM-PII ROC;PRAM-BEI ROC;PRAM-BUON ROC;DAP ROC"),
    (0x19fb, "DAP-MUOY ROC;DAP-PII ROC;DAP-BEI ROC;DAP-BUON ROC;DAP-PRAM ROC")]⟩,
  ⟨"BUGINESE LETTER ", [
    (0x1a00, "KA;GA;NGA;NGKA;PA;BA;MA;MPA;TA;DA;NA;NRA;CA;JA;NYA;NYCA;YA;RA;LA;VA;SA;A;HA")]⟩,
  ⟨"BUGINESE VOWEL ", [(0x1a17, "SIGN I;SIGN U;SIGN E;SIGN O;SIGN AE")]⟩,
  ⟨"BUGINESE ", [(0x1a1e, "PALLAWA;END OF SECTION")]⟩,
  ⟨"TAI THAM LETTER HIGH ", [
    (0x1a20, "KA;KHA;KXA;;;;;CA;CHA;;;;;;RATHA;;;;TA;THA;;;;;PA;PHA;FA;;;;;;YA;;;;;;SHA;SSA;SA"),
    (0x1a49, "HA")]⟩,
  ⟨"TAI THAM LETTER LOW ", [
    (0x1a23, "KA;KXA;KHA;;;;CA;SA;CHA;;;;;RATHA;;;;TA;THA;;;;;;PA;FA;PHA;;YA"), (0x1a4c, "HA")]⟩,
  ⟨"TAI THAM LETTER ", [
    (0x1a26, "NGA;;;;;;NYA;RATA;;DA;;RANA;;;;;NA;BA;;;;;;;MA;;;RA;RUE;LA;LUE;WA;;;;;LLA;A;;I;II"),
    (0x1a4f, "U;UU;EE;OO;LAE;GREAT SA")]⟩,
  ⟨"TAI THAM CONSONANT SIGN ", [
    (0x1a55, "MEDIAL RA;MEDIAL LA;LA TANG LAI;;FINAL NGA;LOW PA;HIGH RATHA OR LOW PA;MA;BA;SA")]⟩,
  ⟨"TAI THAM SIGN ", [
    (0x1a58, "MAI KANG LAI;;;;;;;;SAKOT"), (0x1a74, "MAI KANG;TONE-1;TONE-2;KHUEN TONE-3"),
    (0x1a78, "KHUEN TONE-4;KHUEN TONE-5;RA HAAM;MAI SAM;KHUEN-LUE KARAN"), (0x1aa0, "WIANG"),
    (0x1aa1, "WIANGWAAK;SAWAN;KEOW;HOY;DOKMAI;REVERSED ROTATED RANA;MAI YAMOK;KAAN;KAANKUU"),
    (0x1aaa, "SATKAAN;SATKAANKUU;HANG;CAANG")]⟩,
  ⟨"TAI THAM VOWEL SIGN ", [
    (0x1a61, "A;MAI SAT;AA;TALL AA;I;II;UE;UUE;U;UU;O;OA BELOW;OY;E;AE;OO;AI;THAM AI;OA ABOVE")]⟩,
  ⟨"TAI THAM ", [(0x1a7f, "COMBINING CRYPTOGRAMMIC DOT")]⟩,
  ⟨"TAI THAM HORA DIGIT ", [(0x1a80, "ZERO;ONE;TWO;THREE;FOUR;FIVE;SIX;SEVEN;EIGHT;NINE")]⟩,
  ⟨"TAI THAM THAM DIGIT ", [(0x1a90, "ZERO;ONE;TWO;THREE;FOUR;FIVE;SIX;SEVEN;EIGHT;NINE")]⟩,
  ⟨"COMBINING ", [
    (0x1ab0, "DOUBLED CIRCUMFLEX ACCENT;DIAERESIS-RING;INFINITY;DOWNWARDS ARROW;TRIPLE DOT"),
    (0x1ab5, "X-X BELOW;WIGGLY LINE BELOW;OPEN MARK BELOW;DOUBLE OPEN MARK BELOW"),
    (0x1ab9, "LIGHT CENTRALIZATION STROKE BELOW;STRONG CENTRALIZATION STROKE BELOW"),
    (0x1abc, "DOUBLE PARENTHESES ABOVE;;;;;LEFT PARENTHESIS ABOVE LEFT"),
    (0x1ac2, "RIGHT PARENTHESIS ABOVE RIGHT;LEFT PARENTHESIS BELOW LEFT"),
    (0x1ac4, "RIGHT PARENTHESIS BELOW RIGHT;SQUARE BRACKETS ABOVE;NUMBER SIGN ABOVE"),
    (0x1ac7, "INVERTED DOUBLE ARCH ABOVE;PLUS SIGN ABOVE;DOUBLE PLUS SIGN ABOVE"),
    (0x1aca, "DOUBLE PLUS SIGN BELOW;TRIPLE ACUTE ACCENT")]⟩,
  ⟨"COMBINING PARENTHESES ", [(0x1abb, "ABOVE;;BELOW;OVERLAY")]⟩,
  ⟨"COMBINING LATIN ", [
    (0x1abf, "SMALL LETTER W BELOW;SMALL LETTER TURNED W BELOW"),
    (0x1acc, "SMALL LETTER INSULAR G;SMALL LETTER INSULAR R;SMALL LETTER INSULAR T")]⟩,
  ⟨"BALINESE SIGN ", [(0x1b00, "ULU RICEM;ULU CANDRA;CECEK;SURANG;BISAH"), (0x1b34, "REREKAN")]⟩,
  ⟨"BALINESE LETTER ", [
    (0x1b05, "AKARA;AKARA TEDUNG;IKARA;IKARA TEDUNG;UKARA;UKARA TEDUNG;RA REPA;RA REPA TEDUNG"),
    (0x1b0d, "LA LENGA;LA LENGA TEDUNG;EKARA;AIKARA;OKARA;OKARA TEDUNG;KA;KA MAHAPRANA;GA"),
    (0x1b16, "GA GORA;NGA;CA;CA LACA;JA;JA JERA;NYA;TA LATIK;TA MURDA MAHAPRANA"),
    (0x1b1f, "DA MURDA ALPAPRANA;DA MURDA MAHAPRANA;NA RAMBAT;TA;TA TAWA;DA;DA MADU;NA;PA"),
    (0x1b28, "PA KAPAL;BA;BA KEMBANG;MA;YA;RA;LA;WA;SA SAGA;SA SAPA;SA;HA"),
    (0x1b45, "KAF SASAK;KHOT SASAK;TZIR SASAK;EF SASAK;VE SASAK;ZAL SASAK;ASYURA SASAK"),
    (0x1b4c, "ARCHAIC JNYA")]⟩,
  ⟨"BALINESE VOWEL SIGN ", [
    (0x1b35, "TEDUNG;ULU;ULU SARI;SUKU;SUKU ILUT;RA REPA;RA REPA TEDUNG;LA LENGA"),
    (0x1b3d, "LA LENGA TEDUNG;TALING;TALING REPA;TALING TEDUNG;TALING REPA TEDUNG;PEPET"),
    (0x1b43, "PEPET TEDUNG")]⟩,
  ⟨"BALINESE ", [
    (0x1b44, "ADEG ADEG"), (0x1b5a, "PANTI;PAMADA;WINDU;CARIK PAMUNGKAH;CARIK SIKI"),
    (0x1b5f, "CARIK PAREREN;PAMENENG"), (0x1b7d, "PANTI LANTANG;PAMADA LANTANG")]⟩,
  ⟨"BALINESE DIGIT ", [(0x1b50, "ZERO;ONE;TWO;THREE;FOUR;FIVE;SIX;SEVEN;EIGHT;NINE")]⟩,
  ⟨"BALINESE MUSICAL SYMBOL ", [
    (0x1b61, "DONG;DENG;DUNG;DANG;DANG SURANG;DING;DAENG;DEUNG;DAING;DANG GEDE"),
    (0x1b74, "RIGHT-HAND OPEN DUG;RIGHT-HAND OPEN DAG;RIGHT-HAND CLOSED TUK"),
    (0x1b77, "RIGHT-HAND CLOSED TAK")]⟩,
  ⟨"BALINESE MUSICAL SYMBOL COMBINING ", [
    (0x1b6b, "TEGEH;ENDEP;KEMPUL;KEMPLI;JEGOGAN;KEMPUL WITH JEGOGAN;KEMPLI WITH JEGOGAN;BENDE"),
    (0x1b73, "GONG")]⟩,
  ⟨"BALINESE MUSICAL SYMBOL LEFT-HAND ", [
    (0x1b78, "OPEN PANG;OPEN PUNG;CLOSED PLAK;CLOSED PLUK;OPEN PING")]⟩,
  ⟨"SUNDANESE ", [
    (0x1b80, "SIGN PANYECEK;SIGN PANGLAYAR;SIGN PANGWISAD"), (0x1baa, "SIGN PAMAAEH;SIGN VIRAMA"),
    (0x1bba, "AVAGRAHA")]⟩,
  ⟨"SUNDANESE LETTER ", [
    (0x1b83, "A;I;U;AE;O;E;EU;KA;QA;GA;NGA;CA;JA;ZA;NYA;TA;DA;NA;PA;FA;VA;BA;MA;YA;RA;LA;WA;SA"),
    (0x1b9f, "XA;HA"), (0x1bae, "KHA;SYA"), (0x1bbb, "REU;LEU;BHA;FINAL K;FINAL M")]⟩,
  ⟨"SUNDANESE CONSONANT ", [
    (0x1ba1, "SIGN PAMINGKAL;SIGN PANYAKRA;SIGN PANYIKU"), (0x1bac, "SIGN PASANGAN MA"),
    (0x1bad, "SIGN PASANGAN WA")]⟩,
  ⟨"SUNDANESE VOWEL ", [
    (0x1ba4, "SIGN PANGHULU;SIGN PANYUKU;SIGN PANAELAENG;SIGN PANOLONG;SIGN PAMEPET"),
    (0x1ba9, "SIGN PANEULEUNG")]⟩,
  ⟨"SUNDANESE DIGIT ", [(0x1bb0, "ZERO;ONE;TWO;THREE;FOUR;FIVE;SIX;SEVEN;EIGHT;NINE")]⟩,
  ⟨"BATAK LETTER ", [
    (0x1bc0, "A;;HA;;MANDAILING HA;BA;KARO BA;PA;;NA;MANDAILING NA;WA;;PAKPAK WA;GA;;JA;DA;RA"),
    (0x1bd4, "MA;;SOUTHERN TA;NORTHERN TA;SA;;MANDAILING SA;YA;;NGA;LA;;NYA;CA;NDA;MBA;I;U")]⟩,
  ⟨"BATAK LETTER SIMALUNGUN ", [(0x1bc1, "A;;HA;;;;;PA;;;;WA;;;GA;;;;RA;;MA;;;;SA;;;YA;;;LA")]⟩,
  ⟨"BATAK ", [
    (0x1be6, "SIGN TOMPI"), (0x1bf0, "CONSONANT SIGN NG;CONSONANT SIGN H;PANGOLAT;PANONGONAN")]⟩,
  ⟨"BATAK VOWEL SIGN ", [(0x1be7, "E;PAKPAK E;EE;I;KARO I;O;KARO O;U;U FOR SIMALUNGUN SA")]⟩,
  ⟨"BATAK SYMBOL ", [(0x1bfc, "BINDU NA METEK;BINDU PINARBORAS;BINDU JUDUL;BINDU PANGOLAT")]⟩,
  ⟨"LEPCHA LETTER ", [
    (0x1c00, "KA;KLA;KHA;GA;GLA;NGA;CA;CHA;JA;NYA;TA;THA;DA;NA;PA;PLA;PHA;FA;FLA;BA;BLA;MA;MLA"),
    (0x1c17, "TSA;TSHA;DZA;YA;RA;LA;HA;HLA;VA;SA;SHA;WA;A"), (0x1c4d, "TTA;TTHA;DDA")]⟩,
  ⟨"LEPCHA ", [
    (0x1c24, "SUBJOINED LETTER YA;SUBJOINED LETTER RA"), (0x1c36, "SIGN RAN;SIGN NUKTA")]⟩,
  ⟨"LEPCHA VOWEL SIGN ", [(0x1c26, "AA;I;O;OO;U;UU;E")]⟩,
  ⟨"LEPCHA CONSONANT SIGN ", [(0x1c2d, "K;M;L;N;P;R;T;NYIN-DO;KANG")]⟩,
  ⟨"LEPCHA PUNCTUATION ", [(0x1c3b, "TA-ROL;NYET THYOOM TA-ROL;CER-WA;TSHOOK CER-WA;TSHOOK")]⟩,
  ⟨"LEPCHA DIGIT ", [(0x1c40, "ZERO;ONE;TWO;THREE;FOUR;FIVE;SIX;SEVEN;EIGHT;NINE")]⟩,
  ⟨"OL CHIKI DIGIT ", [(0x1c50, "ZERO;ONE;TWO;THREE;FOUR;FIVE;SIX;SEVEN;EIGHT;NINE")]⟩,
  ⟨"OL CHIKI LETTER ", [
    (0x1c5a, "LA;AT;AG;ANG;AL;LAA;AAK;AAJ;AAM;AAW;LI;IS;IH;INY;IR;LU;UC;UD;UNN;UY;LE;EP;EDD;EN"),
    (0x1c72, "ERR;LO;OTT;OB;OV;OH")]⟩,
  ⟨"OL CHIKI ", [
    (0x1c78, "MU TTUDDAG;GAAHLAA TTUDDAAG;MU-GAAHLAA TTUDDAAG;RELAA;PHAARKAA;AHAD"),
    (0x1c7e, "PUNCTUATION MUCAAD;PUNCTUATION DOUBLE MUCAAD")]⟩,
  ⟨"CYRILLIC SMALL LETTER ", [
    (0x1c80, "ROUNDED VE;LONG-LEGGED DE;NARROW O;WIDE ES;TALL TE;THREE-LEGGED TE;TALL HARD SIGN"),
    (0x1c87, "TALL YAT;UNBLENDED UK")]⟩,
  ⟨"GEORGIAN MTAVRULI CAPITAL LETTER ", [
    (0x1c90, "AN;BAN;GAN;DON;EN;VIN;ZEN;TAN;IN;KAN;LAS;MAN;NAR;ON;PAR;ZHAR;RAE;SAN;TAR;UN;PHAR"),
    (0x1ca5, "KHAR;GHAN;QAR;SHIN;CHIN;CAN;JIL;CIL;CHAR;XAN;JHAN;HAE;HE;HIE;WE;HAR;HOE;FI;YN"),
    (0x1cb8, "ELIFI;TURNED GAN;AIN;;;AEN;HARD SIGN;LABIAL SIGN")]⟩,
  ⟨"SUNDANESE PUNCTUATION BINDU ", [
    (0x1cc0, "SURYA;PANGLONG;PURNAMA;CAKRA;LEU SATANGA;KA SATANGA;DA SATANGA;BA SATANGA")]⟩,
  ⟨"VEDIC TONE ", [
    (0x1cd0, "KARSHANA;SHARA;PRENKHA;;;;;;CANDRA BELOW;;DOUBLE SVARITA;TRIPLE SVARITA"),
    (0x1cdc, "KATHAKA ANUDATTA;DOT BELOW;TWO DOTS BELOW;THREE DOTS BELOW"),
    (0x1ce0, "RIGVEDIC KASHMIRI INDEPENDENT SVARITA;ATHARVAVEDIC INDEPENDENT SVARITA"),
    (0x1cf4, "CANDRA ABOVE;;;;RING ABOVE;DOUBLE RING ABOVE")]⟩,
  ⟨"VEDIC SIGN ", [
    (0x1cd3, "NIHSHVASA;YAJURVEDIC MIDLINE SVARITA"), (0x1ce4, "REVERSED VISARGA UDATTA"),
    (0x1ce6, "REVERSED VISARGA ANUDATTA;;;;;;;TIRYAK;HEXIFORM LONG ANUSVARA;LONG ANUSVARA"),
    (0x1cf0, "RTHANG LONG ANUSVARA;;ARDHAVISARGA;ROTATED ARDHAVISARGA;;JIHVAMULIYA;UPADHMANIYA"),
    (0x1cf7, "ATIKRAMA;;;DOUBLE ANUSVARA ANTARGOMUKHA")]⟩,
  ⟨"VEDIC TONE YAJURVEDIC ", [
    (0x1cd5, "AGGRAVATED INDEPENDENT SVARITA;INDEPENDENT SVARITA;KATHAKA INDEPENDENT SVARITA"),
    (0x1cd9, "KATHAKA INDEPENDENT SVARITA SCHROEDER")]⟩,
  ⟨"VEDIC SIGN VISARGA ", [
    (0x1ce2, "SVARITA;UDATTA;;ANUDATTA;;UDATTA WITH TAIL;ANUDATTA WITH TAIL")]⟩,
  ⟨"VEDIC SIGN ANUSVARA ", [
    (0x1ce9, "ANTARGOMUKHA;BAHIRGOMUKHA;VAMAGOMUKHA;VAMAGOMUKHA WITH TAIL;;;;;UBHAYATO MUKHA")]⟩]

end ReceiptRules.Text.CharacterName
