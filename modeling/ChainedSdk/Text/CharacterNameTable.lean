/-
# The names of characters

The names that Unicode 14 gives to characters, with their aliases, other than
those that are made of a code point or of syllables. They are written as a
tree of words: what follows a word stands in parentheses behind it, and a word
where a name ends although others go on is marked with a point. Blanks and
line feeds stand between words that follow the same word.

Key definitions: `nameTree`.
-/
namespace ChainedSdk
namespace Text

/-- The tree of names. -/
def nameTree : String := "ABACUS AC(CURRENT) ACCORDION ACCOUNT(OF) ACK ACKNOWLEDGE ACTIVATE(ARABIC(FORM(SHAPING))
SYMMETRIC(SWAPPING)) ACUTE(ACCENT ANGLE) ADDRESSED(TO(THE(SUBJECT))) ADHESIVE(BANDAGE) ADI(SHAKTI)
ADLAM(ALIF(LENGTHENER) CAPITAL(LETTER(ALIF BA BHE CHI DAALI DHA E FA GA GBE HA I JIIM KAF KHA KPO
LAAM MIIM NHA NUN NYA O PE QAAF RA SHA SINNYIIYHE TU U VA WAW YA YHE ZAL)) CONSONANT(MODIFIER)
DIGIT(EIGHT FIVE FOUR NINE ONE SEVEN SIX THREE TWO ZERO) GEMINATE(CONSONANT(MODIFIER))
GEMINATION(MARK) HAMZA INITIAL(EXCLAMATION(MARK) QUESTION(MARK)) NASALIZATION(MARK) NUKTA
SMALL(LETTER(ALIF BA BHE CHI DAALI DHA E FA GA GBE HA I JIIM KAF KHA KPO LAAM MIIM NHA NUN NYA O PE
QAAF RA SHA SINNYIIYHE TU U VA WAW YA YHE ZAL)) VOWEL(LENGTHENER)) ADMETOS ADMISSION(TICKETS) ADULT
AEGEAN(CHECK(MARK) DRY(MEASURE(FIRST(SUBUNIT))) LIQUID(MEASURE(FIRST(SUBUNIT)))
MEASURE(SECOND(SUBUNIT) THIRD(SUBUNIT)) NUMBER(EIGHT.(HUNDRED THOUSAND) EIGHTY.(THOUSAND)
FIFTY.(THOUSAND) FIVE.(HUNDRED THOUSAND) FORTY.(THOUSAND) FOUR.(HUNDRED THOUSAND) NINE.(HUNDRED
THOUSAND) NINETY.(THOUSAND) ONE.(HUNDRED THOUSAND) SEVEN.(HUNDRED THOUSAND) SEVENTY.(THOUSAND)
SIX.(HUNDRED THOUSAND) SIXTY.(THOUSAND) TEN.(THOUSAND) THIRTY.(THOUSAND) THREE.(HUNDRED THOUSAND)
TWENTY.(THOUSAND) TWO.(HUNDRED THOUSAND)) WEIGHT(BASE(UNIT) FIRST(SUBUNIT) FOURTH(SUBUNIT)
SECOND(SUBUNIT) THIRD(SUBUNIT)) WORD(SEPARATOR(DOT LINE))) AERIAL(TRAMWAY) AFGHANI(SIGN)
AHOM(CONSONANT(SIGN(MEDIAL(LA LIGATING(RA) RA))) DIGIT(EIGHT FIVE FOUR NINE ONE SEVEN SIX THREE TWO
ZERO) LETTER(A ALTERNATE(BA GA TA) BA BHA CA CHA DA DDA DDHA DHA GA GHA HA JA JHA KA KHA LA LLA MA
NA NGA NNA NYA PA PHA RA SA TA THA TTA TTHA) NUMBER(TEN TWENTY) SIGN(KILLER RULAI SECTION
SMALL(SECTION)) SYMBOL(VI) VOWEL(SIGN(A AA AI AM AW E I II O U UU))) AIRPLANE.(ARRIVING DEPARTURE)
AKTIESELSKAB ALARM(CLOCK) ALCHEMICAL(SYMBOL(FOR(AIR ALEMBIC ALKALI ALKALI-2 ALUM AMALGAM
ANTIMONY(ORE) AQUA(REGIA REGIA-2 VITAE VITAE-2) AQUAFORTIS ARSENIC ASHES AURIPIGMENT BATH(OF(MARY
VAPOURS)) BISMUTH(ORE) BLACK(SULFUR) BORAX BORAX-2 BORAX-3 BRICK CADUCEUS CALX CAPUT(MORTUUM)
CINNABAR COPPER(ANTIMONIATE ORE) CROCUS(OF(COPPER COPPER-2 IRON)) CRUCIBLE CRUCIBLE-2 CRUCIBLE-3
CRUCIBLE-4 CRUCIBLE-5 DAY-NIGHT DISSOLVE DISSOLVE-2 DISTILL EARTH FIRE GOLD GUM HALF(DRAM OUNCE)
HORSE(DUNG) HOUR IRON(ORE ORE-2) IRON-COPPER(ORE) LEAD(ORE) LODESTONE MARCASITE MERCURY(SUBLIMATE
SUBLIMATE-2 SUBLIMATE-3) MONTH NIGHT NITRE OIL PHILOSOPHERS(SULFUR) POT(ASHES) POWDER
POWDERED(BRICK) PRECIPITATE PURIFY PUTREFACTION QUICK(LIME) QUINTESSENCE REALGAR REALGAR-2
REGULUS.(OF(ANTIMONY ANTIMONY-2 IRON)) REGULUS-2 REGULUS-3 REGULUS-4 RETORT ROCK(SALT SALT-2)
SAL-AMMONIAC SALT.(OF(ANTIMONY COPPER(ANTIMONIATE))) SCEPTER(OF(JOVE)) SILVER SOAP SPIRIT
STARRED(TRIDENT) STRATUM(SUPER(STRATUM STRATUM-2)) SUBLIMATE(OF(ANTIMONY COPPER SALT(OF(ANTIMONY
COPPER)))) SUBLIMATION SULFUR TARTAR TARTAR-2 TIN(ORE) TINCTURE TRIDENT TUTTY URINE VERDIGRIS
VINEGAR.(OF(ANTIMONY)) VINEGAR-2 VINEGAR-3 VITRIOL VITRIOL-2 WATER WAX))) ALEF(SYMBOL) ALEMBIC
ALERT ALIEN(MONSTER) ALL(AROUND-PROFILE EQUAL(TO)) ALM ALMOST(EQUAL(OR(EQUAL(TO))
TO.(WITH(CIRCUMFLEX(ACCENT))))) ALTERNATE(ONE-WAY(LEFT(WAY(TRAFFIC)))) ALTERNATIVE(KEY(SYMBOL))
AMALGAMATION(OR(COPRODUCT)) AMBULANCE AMERICAN(FOOTBALL) AMPERSAND AMPHORA
ANATOLIAN(HIEROGLYPH(A001 A002 A003 A004 A005 A006 A007 A008 A009 A010 A010A A011 A012 A013 A014
A015 A016 A017 A018 A019 A020 A021 A022 A023 A024 A025 A026 A026A A027 A028 A029 A030 A031 A032
A033 A034 A035 A036 A037 A038 A039 A039A A040 A041 A041A A042 A043 A044 A045 A045A A046 A046A A046B
A047 A048 A049 A050 A051 A052 A053 A054 A055 A056 A057 A058 A059 A060 A061 A062 A063 A064 A065 A066
A066A A066B A066C A067 A068 A069 A070 A071 A072 A073 A074 A075 A076 A077 A078 A079 A080 A081 A082
A083 A084 A085 A086 A087 A088 A089 A090 A091 A092 A093 A094 A095 A096 A097 A097A A098 A098A A099
A100 A100A A101 A101A A102 A102A A103 A104 A104A A104B A104C A105 A105A A105B A106 A107 A107A A107B
A107C A108 A109 A110 A110A A110B A111 A112 A113 A114 A115 A115A A116 A117 A118 A119 A120 A121 A122
A123 A124 A125 A125A A126 A127 A128 A129 A130 A131 A132 A133 A134 A135 A135A A136 A137 A138 A139
A140 A141 A142 A143 A144 A145 A146 A147 A148 A149 A150 A151 A152 A153 A154 A155 A156 A157 A158 A159
A160 A161 A162 A163 A164 A165 A166 A167 A168 A169 A170 A171 A172 A173 A174 A175 A176 A177 A178 A179
A180 A181 A182 A183 A184 A185 A186 A187 A188 A189 A190 A191 A192 A193 A194 A195 A196 A197 A198 A199
A200 A201 A202 A202A A202B A203 A204 A205 A206 A207 A207A A208 A209 A209A A210 A211 A212 A213 A214
A215 A215A A216 A216A A217 A218 A219 A220 A221 A222 A223 A224 A225 A226 A227 A227A A228 A229 A230
A231 A232 A233 A234 A235 A236 A237 A238 A239 A240 A241 A242 A243 A244 A245 A246 A247 A248 A249 A250
A251 A252 A253 A254 A255 A256 A257 A258 A259 A260 A261 A262 A263 A264 A265 A266 A267 A267A A268
A269 A270 A271 A272 A273 A274 A275 A276 A277 A278 A279 A280 A281 A282 A283 A284 A285 A286 A287 A288
A289 A289A A290 A291 A292 A293 A294 A294A A295 A296 A297 A298 A299 A299A A300 A301 A302 A303 A304
A305 A306 A307 A308 A309 A309A A310 A311 A312 A313 A314 A315 A316 A317 A318 A319 A320 A321 A322
A323 A324 A325 A326 A327 A328 A329 A329A A330 A331 A332A A332B A332C A333 A334 A335 A336 A336A
A336B A336C A337 A338 A339 A340 A341 A342 A343 A344 A345 A346 A347 A348 A349 A350 A351 A352 A353
A354 A355 A356 A357 A358 A359 A359A A360 A361 A362 A363 A364 A364A A365 A366 A367 A368 A368A A369
A370 A371 A371A A372 A373 A374 A375 A376 A377 A378 A379 A380 A381 A381A A382 A383(RA(OR(RI))) A383A
A384 A385 A386 A386A A387 A388 A389 A390 A391 A392 A393(EIGHT) A394 A395 A396 A397 A398 A399 A400
A401 A402 A403 A404 A405 A406 A407 A408 A409 A410(BEGIN(LOGOGRAM(MARK))) A410A(END(LOGOGRAM(MARK)))
A411 A412 A413 A414 A415 A416 A417 A418 A419 A420 A421 A422 A423 A424 A425 A426 A427 A428 A429 A430
A431 A432 A433 A434 A435 A436 A437 A438 A439 A440 A441 A442 A443 A444 A445 A446 A447 A448 A449 A450
A450A A451 A452 A453 A454 A455 A456 A457 A457A A458 A459 A460 A461 A462 A463 A464 A465 A466 A467
A468 A469 A470 A471 A472 A473 A474 A475 A476 A477 A478 A479 A480 A481 A482 A483 A484 A485 A486 A487
A488 A489 A490 A491 A492 A493 A494 A495 A496 A497 A501 A502 A503 A504 A505 A506 A507 A508 A509 A510
A511 A512 A513 A514 A515 A516 A517 A518 A519 A520 A521 A522 A523 A524 A525 A526 A527 A528 A529
A530)) ANATOMICAL(HEART) ANCHOR AND(WITH(DOT)) ANGER(SYMBOL) ANGLE.(WITH(S(INSIDE) UNDERBAR))
ANGRY(FACE) ANGSTROM(SIGN) ANGUISHED(FACE) ANKH ANT ANTENNA(WITH(BARS))
ANTICLOCKWISE(CLOSED(CIRCLE(ARROW)) CONTOUR(INTEGRAL) DOWNWARDS(AND(UPWARDS(OPEN(CIRCLE(ARROWS)))))
GAPPED(CIRCLE(ARROW)) INTEGRATION OPEN(CIRCLE(ARROW)) TOP(SEMICIRCLE(ARROW))
TRIANGLE-HEADED(BOTTOM(U-SHAPED(ARROW)) LEFT(U-SHAPED(ARROW)) OPEN(CIRCLE(ARROW))
RIGHT(U-SHAPED(ARROW)) TOP(U-SHAPED(ARROW)))) APC APL(FUNCTIONAL(SYMBOL(ALPHA.(UNDERBAR)
BACKSLASH(BAR) CIRCLE(BACKSLASH DIAERESIS JOT STAR STILE UNDERBAR) COMMA(BAR) DEL(DIAERESIS STILE
TILDE) DELTA(STILE UNDERBAR) DIAMOND(UNDERBAR) DOWN(CARET(TILDE) SHOE(STILE) TACK(JOT UNDERBAR))
DOWNWARDS(VANE) EPSILON(UNDERBAR) GREATER-THAN(DIAERESIS) I-BEAM IOTA.(UNDERBAR) JOT(DIAERESIS
UNDERBAR) LEFT(SHOE(STILE)) LEFTWARDS(VANE) OMEGA.(UNDERBAR) QUAD.(BACKSLASH CIRCLE COLON DEL DELTA
DIAMOND DIVIDE DOWN(CARET) DOWNWARDS(ARROW) EQUAL GREATER-THAN JOT LEFTWARDS(ARROW) LESS-THAN
NOT(EQUAL) QUESTION RIGHTWARDS(ARROW) SLASH UP(CARET) UPWARDS(ARROW)) QUOTE(QUAD UNDERBAR) RHO
RIGHTWARDS(VANE) SEMICOLON(UNDERBAR) SLASH(BAR) SQUISH(QUAD) STAR(DIAERESIS) STILE(TILDE)
TILDE(DIAERESIS) UP(CARET(TILDE) SHOE(JOT) TACK(DIAERESIS JOT OVERBAR)) UPWARDS(VANE) ZILDE)))
APOLLON APOSTROPHE APPLICATION(PROGRAM(COMMAND)) APPROACHES(THE(LIMIT))
APPROXIMATELY(BUT(NOT(ACTUALLY(EQUAL(TO)))) EQUAL(OR(EQUAL(TO)) TO.(OR(THE(IMAGE(OF)))))) AQUARIUS
ARABIC(BASELINE(ROUND(DOT)) COMMA CURLY(DAMMA DAMMATAN FATHA FATHATAN KASRA KASRATAN)
DAMMA.(ISOLATED(FORM) MEDIAL(FORM) WITH(DOT)) DAMMATAN.(ISOLATED(FORM)) DATE(SEPARATOR)
DECIMAL(SEPARATOR) DISPUTED(END(OF(AYAH))) DOUBLE(RIGHT(ARROWHEAD(ABOVE.(WITH(DOT)))))
DOUBLED(MADDA) EMPTY(CENTRE(HIGH(STOP) LOW(STOP))) END(OF(AYAH TEXT(MARK))) FATHA.(ISOLATED(FORM)
MEDIAL(FORM) WITH(DOT(ABOVE) RING TWO(DOTS))) FATHATAN.(ISOLATED(FORM)) FIVE(POINTED(STAR))
FOOTNOTE(MARKER) FULL(STOP) HALF(MADDA(OVER(MADDA))) HAMZA(ABOVE BELOW) INVERTED(DAMMA)
KASRA.(ISOLATED(FORM) MEDIAL(FORM) WITH(DOT(BELOW))) KASRATAN.(ISOLATED(FORM)) LARGE(CIRCLE(BELOW)
ROUND(DOT(ABOVE BELOW INSIDE(CIRCLE(BELOW))))) LEFT(ARROWHEAD(ABOVE BELOW)) LETTER(AE AFRICAN(FEH
NOON QAF.(WITH(THREE(DOTS(ABOVE))))) AIN.(FINAL(FORM) INITIAL(FORM) ISOLATED(FORM) MEDIAL(FORM)
WITH(THREE(DOTS(ABOVE BELOW POINTING(DOWNWARDS(ABOVE)))) TWO(DOTS(ABOVE VERTICALLY(ABOVE)))))
ALEF.(FINAL(FORM) ISOLATED(FORM) MAKSURA.(FINAL(FORM) ISOLATED(FORM)) WASLA.(FINAL(FORM)
ISOLATED(FORM)) WITH(ATTACHED(BOTTOM(RIGHT(KASRA.(AND(DOT(ABOVE) LEFT(RING))))) FATHA KASRA
LEFT(HAMZA ROUND(DOT)) RIGHT(HAMZA ROUND(DOT)) ROUND(DOT(ABOVE BELOW))
TOP(RIGHT(FATHA.(AND(DOT(ABOVE) LEFT(RING)))))) DOT(ABOVE) EXTENDED(ARABIC-INDIC(DIGIT(THREE(ABOVE)
TWO(ABOVE)))) HAMZA(ABOVE.(FINAL(FORM) ISOLATED(FORM)) BELOW.(FINAL(FORM) ISOLATED(FORM)))
LEFT(MIDDLE(STROKE)) MADDA(ABOVE.(FINAL(FORM) ISOLATED(FORM))) RIGHT(MIDDLE(STROKE.(AND(DOT(ABOVE)
LEFT(RING))))) WAVY(HAMZA(ABOVE BELOW)))) BEEH.(FINAL(FORM) INITIAL(FORM) ISOLATED(FORM)
MEDIAL(FORM)) BEH.(FINAL(FORM) INITIAL(FORM) ISOLATED(FORM) MEDIAL(FORM)
WITH(DOT(BELOW(AND(THREE(DOTS(ABOVE))))) HAMZA(ABOVE) INVERTED(SMALL(V(BELOW))) SMALL(MEEM(ABOVE)
V.(BELOW)) THREE(DOTS(HORIZONTALLY(BELOW) POINTING(UPWARDS(BELOW.(AND(TWO(DOTS(ABOVE))))))))
TWO(DOTS(BELOW(AND(DOT(ABOVE))))))) BEHEH.(FINAL(FORM) INITIAL(FORM) ISOLATED(FORM) MEDIAL(FORM))
DAD.(FINAL(FORM) INITIAL(FORM) ISOLATED(FORM) MEDIAL(FORM) WITH(DOT(BELOW))) DAHAL.(FINAL(FORM)
ISOLATED(FORM)) DAL.(FINAL(FORM) ISOLATED(FORM) WITH(DOT(BELOW.(AND(SMALL(TAH)))) FOUR(DOTS(ABOVE))
INVERTED(SMALL(V(BELOW)) V) RING THREE(DOTS(ABOVE(DOWNWARDS) BELOW))
TWO(DOTS(VERTICALLY(BELOW(AND(SMALL(TAH)))))))) DDAHAL.(FINAL(FORM) ISOLATED(FORM))
DDAL.(FINAL(FORM) ISOLATED(FORM)) DOTLESS(BEH FEH QAF) DUL.(FINAL(FORM) ISOLATED(FORM))
DYEH.(FINAL(FORM) INITIAL(FORM) ISOLATED(FORM) MEDIAL(FORM)) E.(FINAL(FORM) INITIAL(FORM)
ISOLATED(FORM) MEDIAL(FORM)) FARSI(YEH.(FINAL(FORM) INITIAL(FORM) ISOLATED(FORM) MEDIAL(FORM)
WITH(EXTENDED(ARABIC-INDIC(DIGIT(FOUR(BELOW) THREE(ABOVE) TWO(ABOVE)))) INVERTED(V)
THREE(DOTS(ABOVE)) TWO(DOTS(ABOVE))))) FEH.(FINAL(FORM) INITIAL(FORM) ISOLATED(FORM) MEDIAL(FORM)
WITH(DOT(BELOW.(AND(THREE(DOTS(ABOVE)))) MOVED(BELOW)) THREE(DOTS(BELOW POINTING(UPWARDS(BELOW))))
TWO(DOTS(BELOW)))) GAF.(FINAL(FORM) INITIAL(FORM) ISOLATED(FORM) MEDIAL(FORM) WITH(INVERTED(STROKE)
RING THREE(DOTS(ABOVE)) TWO(DOTS(BELOW)))) GHAIN.(FINAL(FORM) INITIAL(FORM) ISOLATED(FORM)
MEDIAL(FORM) WITH(DOT(BELOW) THREE(DOTS(ABOVE)))) GRAF GUEH.(FINAL(FORM) INITIAL(FORM)
ISOLATED(FORM) MEDIAL(FORM)) HAH.(FINAL(FORM) INITIAL(FORM) ISOLATED(FORM) MEDIAL(FORM)
WITH(EXTENDED(ARABIC-INDIC(DIGIT(FOUR(BELOW)))) HAMZA(ABOVE) INVERTED(SMALL(V(BELOW)))
SMALL(ARABIC(LETTER(TAH(ABOVE AND(TWO(DOTS)) BELOW)))) THREE(DOTS(ABOVE POINTING(UPWARDS(BELOW))))
TWO(DOTS(ABOVE VERTICAL(ABOVE))))) HAMZA.(ISOLATED(FORM)) HEH.(DOACHASHMEE.(FINAL(FORM)
INITIAL(FORM) ISOLATED(FORM) MEDIAL(FORM)) FINAL(FORM) GOAL.(FINAL(FORM) INITIAL(FORM)
ISOLATED(FORM) MEDIAL(FORM) WITH(HAMZA(ABOVE))) INITIAL(FORM) ISOLATED(FORM) MEDIAL(FORM)
WITH(INVERTED(V) YEH(ABOVE.(FINAL(FORM) ISOLATED(FORM))))) HIGH(HAMZA.(ALEF WAW YEH))
JEEM.(FINAL(FORM) INITIAL(FORM) ISOLATED(FORM) MEDIAL(FORM) WITH(THREE(DOTS(ABOVE BELOW))
TWO(DOTS(ABOVE)))) JEH.(FINAL(FORM) ISOLATED(FORM)) KAF.(FINAL(FORM) INITIAL(FORM) ISOLATED(FORM)
MEDIAL(FORM) WITH(DOT(ABOVE BELOW) RING THREE(DOTS(BELOW)) TWO(DOTS(ABOVE)))) KASHMIRI(YEH)
KEHEH.(FINAL(FORM) INITIAL(FORM) ISOLATED(FORM) MEDIAL(FORM) WITH(DOT(ABOVE) SMALL(V)
THREE(DOTS(ABOVE BELOW POINTING(UPWARDS(BELOW)))) TWO(DOTS(ABOVE VERTICALLY(BELOW)))))
KHAH.(FINAL(FORM) INITIAL(FORM) ISOLATED(FORM) MEDIAL(FORM)) KIRGHIZ(OE.(FINAL(FORM)
ISOLATED(FORM)) YU.(FINAL(FORM) ISOLATED(FORM))) LAM.(FINAL(FORM) INITIAL(FORM) ISOLATED(FORM)
MEDIAL(FORM) WITH(BAR DOT(ABOVE) DOUBLE(BAR) SMALL(ARABIC(LETTER(TAH(ABOVE))) V) THREE(DOTS(ABOVE
BELOW)))) LOW(ALEF) MARK MEEM.(FINAL(FORM) INITIAL(FORM) ISOLATED(FORM) MEDIAL(FORM) WITH(DOT(ABOVE
BELOW) THREE(DOTS(ABOVE)))) NG.(FINAL(FORM) INITIAL(FORM) ISOLATED(FORM) MEDIAL(FORM))
NGOEH.(FINAL(FORM) INITIAL(FORM) ISOLATED(FORM) MEDIAL(FORM)) NOON.(FINAL(FORM) GHUNNA.(FINAL(FORM)
ISOLATED(FORM)) INITIAL(FORM) ISOLATED(FORM) MEDIAL(FORM) WITH(DOT(BELOW) INVERTED(SMALL(V)) RING
SMALL(TAH V) THREE(DOTS(ABOVE)) TWO(DOTS(BELOW)))) NYEH.(FINAL(FORM) INITIAL(FORM) ISOLATED(FORM)
MEDIAL(FORM)) OE.(FINAL(FORM) ISOLATED(FORM)) PEH.(FINAL(FORM) INITIAL(FORM) ISOLATED(FORM)
MEDIAL(FORM) WITH(SMALL(MEEM(ABOVE) V))) PEHEH.(FINAL(FORM) INITIAL(FORM) ISOLATED(FORM)
MEDIAL(FORM)) QAF.(FINAL(FORM) INITIAL(FORM) ISOLATED(FORM) MEDIAL(FORM) WITH(DOT(ABOVE
BELOW.(AND(NO(DOTS(ABOVE))))) THREE(DOTS(ABOVE)))) REH.(FINAL(FORM) ISOLATED(FORM)
WITH(DOT(BELOW.(AND(DOT(ABOVE)))) FOUR(DOTS(ABOVE)) HAMZA(ABOVE) INVERTED(V) LOOP RING
SMALL(ARABIC(LETTER(TAH(AND(TWO(DOTS))))) NOON(ABOVE) V.(BELOW)) STROKE TWO(DOTS(ABOVE
VERTICALLY(ABOVE))))) RNOON.(FINAL(FORM) INITIAL(FORM) ISOLATED(FORM) MEDIAL(FORM)) ROHINGYA(YEH)
RREH.(FINAL(FORM) ISOLATED(FORM)) SAD.(FINAL(FORM) INITIAL(FORM) ISOLATED(FORM) MEDIAL(FORM)
WITH(THREE(DOTS(ABOVE BELOW)) TWO(DOTS(BELOW)))) SEEN.(FINAL(FORM) INITIAL(FORM) ISOLATED(FORM)
MEDIAL(FORM) WITH(DOT(BELOW(AND(DOT(ABOVE)))) EXTENDED(ARABIC-INDIC(DIGIT(FOUR(ABOVE))))
FOUR(DOTS(ABOVE)) INVERTED(V) SMALL(ARABIC(LETTER(TAH(AND(TWO(DOTS))))))
THREE(DOTS(BELOW.(AND(THREE(DOTS(ABOVE)))))) TWO(DOTS(VERTICALLY(ABOVE))))) SHEEN.(FINAL(FORM)
INITIAL(FORM) ISOLATED(FORM) MEDIAL(FORM) WITH(DOT(BELOW))) STRAIGHT(WAW) SUPERSCRIPT(ALEF)
SWASH(KAF) TAH.(FINAL(FORM) INITIAL(FORM) ISOLATED(FORM) MEDIAL(FORM) WITH(DOT(BELOW)
THREE(DOTS(ABOVE BELOW)) TWO(DOTS(ABOVE)))) TCHEH.(FINAL(FORM) INITIAL(FORM) ISOLATED(FORM)
MEDIAL(FORM) WITH(DOT(ABOVE) SMALL(V))) TCHEHEH.(FINAL(FORM) INITIAL(FORM) ISOLATED(FORM)
MEDIAL(FORM)) TEH.(FINAL(FORM) INITIAL(FORM) ISOLATED(FORM) MARBUTA.(FINAL(FORM) GOAL
ISOLATED(FORM)) MEDIAL(FORM) WITH(RING SMALL(TEH(ABOVE) V) THREE(DOTS(ABOVE(DOWNWARDS)))))
TEHEH.(FINAL(FORM) INITIAL(FORM) ISOLATED(FORM) MEDIAL(FORM)) THAL.(FINAL(FORM) ISOLATED(FORM))
THEH.(FINAL(FORM) INITIAL(FORM) ISOLATED(FORM) MEDIAL(FORM)) THIN(YEH) TTEH.(FINAL(FORM)
INITIAL(FORM) ISOLATED(FORM) MEDIAL(FORM) WITH(SMALL(V))) TTEHEH.(FINAL(FORM) INITIAL(FORM)
ISOLATED(FORM) MEDIAL(FORM)) U.(FINAL(FORM) ISOLATED(FORM) WITH(HAMZA(ABOVE.(ISOLATED(FORM)))))
UIGHUR(KAZAKH(KIRGHIZ(ALEF(MAKSURA(INITIAL(FORM) MEDIAL(FORM)))))) VE.(FINAL(FORM) ISOLATED(FORM))
VEH.(FINAL(FORM) INITIAL(FORM) ISOLATED(FORM) MEDIAL(FORM)) WAW.(FINAL(FORM) ISOLATED(FORM)
WITH(DOT(ABOVE WITHIN) EXTENDED(ARABIC-INDIC(DIGIT(THREE(ABOVE) TWO(ABOVE))))
HAMZA(ABOVE.(FINAL(FORM) ISOLATED(FORM))) RING TWO(DOTS(ABOVE)))) YEH.(BARREE.(FINAL(FORM)
ISOLATED(FORM) WITH(EXTENDED(ARABIC-INDIC(DIGIT(THREE(ABOVE) TWO(ABOVE)))) HAMZA(ABOVE.(FINAL(FORM)
ISOLATED(FORM))))) FINAL(FORM) INITIAL(FORM) ISOLATED(FORM) MEDIAL(FORM)
WITH(HAMZA(ABOVE.(FINAL(FORM) INITIAL(FORM) ISOLATED(FORM) MEDIAL(FORM))) SMALL(V) TAIL
THREE(DOTS(BELOW)) TWO(DOTS(BELOW(AND(DOT(ABOVE) HAMZA(ABOVE) SMALL(NOON(ABOVE))))))))
YU.(FINAL(FORM) ISOLATED(FORM)) ZAH.(FINAL(FORM) INITIAL(FORM) ISOLATED(FORM) MEDIAL(FORM))
ZAIN.(FINAL(FORM) ISOLATED(FORM) WITH(INVERTED(V(ABOVE)))))
LIGATURE(AIN(WITH(ALEF(MAKSURA(FINAL(FORM) ISOLATED(FORM))) JEEM(INITIAL(FORM) ISOLATED(FORM)
WITH(MEEM(FINAL(FORM) INITIAL(FORM)))) MEEM(INITIAL(FORM) ISOLATED(FORM)
WITH(ALEF(MAKSURA(FINAL(FORM))) MEEM(FINAL(FORM) INITIAL(FORM)) YEH(FINAL(FORM)))) YEH(FINAL(FORM)
ISOLATED(FORM)))) AKBAR(ISOLATED(FORM)) ALAYHAA(AS-SALAAM) ALAYHE(ISOLATED(FORM)) ALAYHI(AS-SALAAM
AS-SALAATU(WAS-SALAAM)) ALAYHIM(AS-SALAAM) ALAYHIMAA(AS-SALAAM)
ALEF(MAKSURA(WITH(SUPERSCRIPT(ALEF(FINAL(FORM) ISOLATED(FORM))))) WITH(FATHATAN(FINAL(FORM)
ISOLATED(FORM)))) ALLAH(ISOLATED(FORM)) AZZA(WA(JALL)) BEH(WITH(ALEF(MAKSURA(FINAL(FORM)
ISOLATED(FORM))) HAH(INITIAL(FORM) ISOLATED(FORM) WITH(YEH(FINAL(FORM)))) HEH(INITIAL(FORM)
MEDIAL(FORM)) JEEM(INITIAL(FORM) ISOLATED(FORM)) KHAH(INITIAL(FORM) ISOLATED(FORM)
WITH(YEH(FINAL(FORM)))) MEEM(FINAL(FORM) INITIAL(FORM) ISOLATED(FORM) MEDIAL(FORM))
NOON(FINAL(FORM)) REH(FINAL(FORM)) YEH(FINAL(FORM) ISOLATED(FORM)) ZAIN(FINAL(FORM))))
BISMILLAH(AR-RAHMAN(AR-RAHEEM)) DAD(WITH(ALEF(MAKSURA(FINAL(FORM) ISOLATED(FORM)))
HAH(INITIAL(FORM) ISOLATED(FORM) WITH(ALEF(MAKSURA(FINAL(FORM))) YEH(FINAL(FORM))))
JEEM(INITIAL(FORM) ISOLATED(FORM)) KHAH(INITIAL(FORM) ISOLATED(FORM) WITH(MEEM(FINAL(FORM)
INITIAL(FORM)))) MEEM(INITIAL(FORM) ISOLATED(FORM)) REH(FINAL(FORM) ISOLATED(FORM)) YEH(FINAL(FORM)
ISOLATED(FORM)))) FEH(WITH(ALEF(MAKSURA(FINAL(FORM) ISOLATED(FORM))) HAH(INITIAL(FORM)
ISOLATED(FORM)) JEEM(INITIAL(FORM) ISOLATED(FORM)) KHAH(INITIAL(FORM) ISOLATED(FORM)
WITH(MEEM(FINAL(FORM) INITIAL(FORM)))) MEEM(INITIAL(FORM) ISOLATED(FORM) WITH(YEH(FINAL(FORM))))
YEH(FINAL(FORM) ISOLATED(FORM)))) GHAIN(WITH(ALEF(MAKSURA(FINAL(FORM) ISOLATED(FORM)))
JEEM(INITIAL(FORM) ISOLATED(FORM)) MEEM(INITIAL(FORM) ISOLATED(FORM)
WITH(ALEF(MAKSURA(FINAL(FORM))) MEEM(FINAL(FORM)) YEH(FINAL(FORM)))) YEH(FINAL(FORM)
ISOLATED(FORM)))) HAH(WITH(ALEF(MAKSURA(FINAL(FORM) ISOLATED(FORM))) JEEM(INITIAL(FORM)
ISOLATED(FORM) WITH(YEH(FINAL(FORM)))) MEEM(INITIAL(FORM) ISOLATED(FORM)
WITH(ALEF(MAKSURA(FINAL(FORM))) YEH(FINAL(FORM)))) YEH(FINAL(FORM) ISOLATED(FORM))))
HEH(WITH(ALEF(MAKSURA(ISOLATED(FORM))) JEEM(INITIAL(FORM) ISOLATED(FORM)) MEEM(INITIAL(FORM)
ISOLATED(FORM) WITH(JEEM(INITIAL(FORM)) MEEM(INITIAL(FORM)))) SUPERSCRIPT(ALEF(INITIAL(FORM)))
YEH(ISOLATED(FORM)))) JALLAJALALOUHOU JEEM(WITH(ALEF(MAKSURA(FINAL(FORM) ISOLATED(FORM)))
HAH(INITIAL(FORM) ISOLATED(FORM) WITH(ALEF(MAKSURA(FINAL(FORM))) YEH(FINAL(FORM))))
MEEM(INITIAL(FORM) ISOLATED(FORM) WITH(ALEF(MAKSURA(FINAL(FORM))) HAH(FINAL(FORM) INITIAL(FORM))
YEH(FINAL(FORM)))) YEH(FINAL(FORM) ISOLATED(FORM)))) KAF(WITH(ALEF(FINAL(FORM) ISOLATED(FORM)
MAKSURA(FINAL(FORM) ISOLATED(FORM))) HAH(INITIAL(FORM) ISOLATED(FORM)) JEEM(INITIAL(FORM)
ISOLATED(FORM)) KHAH(INITIAL(FORM) ISOLATED(FORM)) LAM(FINAL(FORM) INITIAL(FORM) ISOLATED(FORM)
MEDIAL(FORM)) MEEM(FINAL(FORM) INITIAL(FORM) ISOLATED(FORM) MEDIAL(FORM) WITH(MEEM(FINAL(FORM)
INITIAL(FORM)) YEH(FINAL(FORM)))) YEH(FINAL(FORM) ISOLATED(FORM))))
KHAH(WITH(ALEF(MAKSURA(FINAL(FORM) ISOLATED(FORM))) HAH(ISOLATED(FORM)) JEEM(INITIAL(FORM)
ISOLATED(FORM)) MEEM(INITIAL(FORM) ISOLATED(FORM)) YEH(FINAL(FORM) ISOLATED(FORM))))
LAM(WITH(ALEF(FINAL(FORM) ISOLATED(FORM) MAKSURA(FINAL(FORM) ISOLATED(FORM))
WITH(HAMZA(ABOVE(FINAL(FORM) ISOLATED(FORM)) BELOW(FINAL(FORM) ISOLATED(FORM)))
MADDA(ABOVE(FINAL(FORM) ISOLATED(FORM))))) HAH(INITIAL(FORM) ISOLATED(FORM)
WITH(ALEF(MAKSURA(FINAL(FORM))) MEEM(FINAL(FORM) INITIAL(FORM)) YEH(FINAL(FORM))))
HEH(INITIAL(FORM)) JEEM(INITIAL(FORM) ISOLATED(FORM) WITH(JEEM(FINAL(FORM) INITIAL(FORM))
MEEM(FINAL(FORM) INITIAL(FORM)) YEH(FINAL(FORM)))) KHAH(INITIAL(FORM) ISOLATED(FORM)
WITH(MEEM(FINAL(FORM) INITIAL(FORM)))) MEEM(FINAL(FORM) INITIAL(FORM) ISOLATED(FORM) MEDIAL(FORM)
WITH(HAH(FINAL(FORM) INITIAL(FORM)) YEH(FINAL(FORM)))) YEH(FINAL(FORM) ISOLATED(FORM))))
MEEM(WITH(ALEF(FINAL(FORM) MAKSURA(ISOLATED(FORM))) HAH(INITIAL(FORM) ISOLATED(FORM)
WITH(JEEM(INITIAL(FORM)) MEEM(INITIAL(FORM)) YEH(FINAL(FORM)))) JEEM(INITIAL(FORM) ISOLATED(FORM)
WITH(HAH(INITIAL(FORM)) KHAH(INITIAL(FORM)) MEEM(INITIAL(FORM)) YEH(FINAL(FORM))))
KHAH(INITIAL(FORM) ISOLATED(FORM) WITH(JEEM(INITIAL(FORM)) MEEM(INITIAL(FORM)) YEH(FINAL(FORM))))
MEEM(FINAL(FORM) INITIAL(FORM) ISOLATED(FORM) WITH(YEH(FINAL(FORM)))) YEH(ISOLATED(FORM))))
MOHAMMAD(ISOLATED(FORM)) NOON(WITH(ALEF(MAKSURA(FINAL(FORM) ISOLATED(FORM))) HAH(INITIAL(FORM)
ISOLATED(FORM) WITH(ALEF(MAKSURA(FINAL(FORM))) MEEM(INITIAL(FORM)) YEH(FINAL(FORM))))
HEH(INITIAL(FORM) MEDIAL(FORM)) JEEM(INITIAL(FORM) ISOLATED(FORM) WITH(ALEF(MAKSURA(FINAL(FORM)))
HAH(FINAL(FORM) INITIAL(FORM)) MEEM(FINAL(FORM) INITIAL(FORM)) YEH(FINAL(FORM))))
KHAH(INITIAL(FORM) ISOLATED(FORM)) MEEM(FINAL(FORM) INITIAL(FORM) ISOLATED(FORM) MEDIAL(FORM)
WITH(ALEF(MAKSURA(FINAL(FORM))) YEH(FINAL(FORM)))) NOON(FINAL(FORM)) REH(FINAL(FORM))
YEH(FINAL(FORM) ISOLATED(FORM)) ZAIN(FINAL(FORM)))) QAF(WITH(ALEF(MAKSURA(FINAL(FORM)
ISOLATED(FORM))) HAH(INITIAL(FORM) ISOLATED(FORM)) MEEM(INITIAL(FORM) ISOLATED(FORM)
WITH(HAH(FINAL(FORM) INITIAL(FORM)) MEEM(FINAL(FORM)) YEH(FINAL(FORM)))) YEH(FINAL(FORM)
ISOLATED(FORM)))) QALA(USED(AS(KORANIC(STOP(SIGN(ISOLATED(FORM))))))) QUDDISA(SIRRAH)
RADI(ALLAAHU(ANH ANHAA ANHUM ANHUMAA ANHUNNA)) RAHIMAHU(ALLAAH) RAHIMAHUM(ALLAAH)
RASOUL(ISOLATED(FORM)) REH(WITH(SUPERSCRIPT(ALEF(ISOLATED(FORM)))))
SAD(WITH(ALEF(MAKSURA(FINAL(FORM) ISOLATED(FORM))) HAH(INITIAL(FORM) ISOLATED(FORM)
WITH(HAH(FINAL(FORM) INITIAL(FORM)) YEH(FINAL(FORM)))) KHAH(INITIAL(FORM)) MEEM(INITIAL(FORM)
ISOLATED(FORM) WITH(MEEM(FINAL(FORM) INITIAL(FORM)))) REH(FINAL(FORM) ISOLATED(FORM))
YEH(FINAL(FORM) ISOLATED(FORM)))) SALAAMUHU(ALAYNAA) SALAM(ISOLATED(FORM)) SALLA(ISOLATED(FORM)
USED(AS(KORANIC(STOP(SIGN(ISOLATED(FORM))))))) SALLALLAAHU(ALAYHI(WA-AALIH))
SALLALLAHOU(ALAYHE(WASALLAM)) SALLALLAHU(ALAYHI(WAAALIHEE(WA-SALLAM)))
SEEN(WITH(ALEF(MAKSURA(FINAL(FORM) ISOLATED(FORM))) HAH(INITIAL(FORM) ISOLATED(FORM) MEDIAL(FORM)
WITH(JEEM(INITIAL(FORM)))) HEH(INITIAL(FORM) MEDIAL(FORM)) JEEM(INITIAL(FORM) ISOLATED(FORM)
MEDIAL(FORM) WITH(ALEF(MAKSURA(FINAL(FORM))) HAH(INITIAL(FORM)))) KHAH(INITIAL(FORM) ISOLATED(FORM)
MEDIAL(FORM) WITH(ALEF(MAKSURA(FINAL(FORM))) YEH(FINAL(FORM)))) MEEM(INITIAL(FORM) ISOLATED(FORM)
MEDIAL(FORM) WITH(HAH(FINAL(FORM) INITIAL(FORM)) JEEM(INITIAL(FORM)) MEEM(FINAL(FORM)
INITIAL(FORM)))) REH(FINAL(FORM) ISOLATED(FORM)) YEH(FINAL(FORM) ISOLATED(FORM))))
SHADDA(WITH(DAMMA(ISOLATED(FORM) MEDIAL(FORM)) DAMMATAN(ISOLATED(FORM)) FATHA(ISOLATED(FORM)
MEDIAL(FORM)) KASRA(ISOLATED(FORM) MEDIAL(FORM)) KASRATAN(ISOLATED(FORM))
SUPERSCRIPT(ALEF(ISOLATED(FORM))))) SHEEN(WITH(ALEF(MAKSURA(FINAL(FORM) ISOLATED(FORM)))
HAH(FINAL(FORM) INITIAL(FORM) ISOLATED(FORM) MEDIAL(FORM) WITH(MEEM(FINAL(FORM) INITIAL(FORM))
YEH(FINAL(FORM)))) HEH(INITIAL(FORM) MEDIAL(FORM)) JEEM(FINAL(FORM) INITIAL(FORM) ISOLATED(FORM)
MEDIAL(FORM) WITH(YEH(FINAL(FORM)))) KHAH(FINAL(FORM) INITIAL(FORM) ISOLATED(FORM) MEDIAL(FORM))
MEEM(FINAL(FORM) INITIAL(FORM) ISOLATED(FORM) MEDIAL(FORM) WITH(KHAH(FINAL(FORM) INITIAL(FORM))
MEEM(FINAL(FORM) INITIAL(FORM)))) REH(FINAL(FORM) ISOLATED(FORM)) YEH(FINAL(FORM) ISOLATED(FORM))))
SUBHAANAHU(WA(TAAALAA)) TABAARAKA(WA-TAAALAA) TAH(WITH(ALEF(MAKSURA(FINAL(FORM) ISOLATED(FORM)))
HAH(INITIAL(FORM) ISOLATED(FORM)) MEEM(INITIAL(FORM) ISOLATED(FORM) MEDIAL(FORM)
WITH(HAH(FINAL(FORM) INITIAL(FORM)) MEEM(INITIAL(FORM)) YEH(FINAL(FORM)))) YEH(FINAL(FORM)
ISOLATED(FORM)))) TEH(WITH(ALEF(MAKSURA(FINAL(FORM) ISOLATED(FORM))) HAH(INITIAL(FORM)
ISOLATED(FORM) WITH(JEEM(FINAL(FORM) INITIAL(FORM)) MEEM(INITIAL(FORM)))) HEH(INITIAL(FORM)
MEDIAL(FORM)) JEEM(INITIAL(FORM) ISOLATED(FORM) WITH(ALEF(MAKSURA(FINAL(FORM))) MEEM(INITIAL(FORM))
YEH(FINAL(FORM)))) KHAH(INITIAL(FORM) ISOLATED(FORM) WITH(ALEF(MAKSURA(FINAL(FORM)))
MEEM(INITIAL(FORM)) YEH(FINAL(FORM)))) MEEM(FINAL(FORM) INITIAL(FORM) ISOLATED(FORM) MEDIAL(FORM)
WITH(ALEF(MAKSURA(FINAL(FORM))) HAH(INITIAL(FORM)) JEEM(INITIAL(FORM)) KHAH(INITIAL(FORM))
YEH(FINAL(FORM)))) NOON(FINAL(FORM)) REH(FINAL(FORM)) YEH(FINAL(FORM) ISOLATED(FORM))
ZAIN(FINAL(FORM)))) THAL(WITH(SUPERSCRIPT(ALEF(ISOLATED(FORM)))))
THEH(WITH(ALEF(MAKSURA(FINAL(FORM) ISOLATED(FORM))) HEH(MEDIAL(FORM)) JEEM(ISOLATED(FORM))
MEEM(FINAL(FORM) INITIAL(FORM) ISOLATED(FORM) MEDIAL(FORM)) NOON(FINAL(FORM)) REH(FINAL(FORM))
YEH(FINAL(FORM) ISOLATED(FORM)) ZAIN(FINAL(FORM))))
UIGHUR(KIRGHIZ(YEH(WITH(HAMZA(ABOVE(WITH(ALEF(MAKSURA(FINAL(FORM) INITIAL(FORM)
ISOLATED(FORM)))))))))) WASALLAM(ISOLATED(FORM)) YEH(WITH(ALEF(MAKSURA(FINAL(FORM) ISOLATED(FORM)))
HAH(INITIAL(FORM) ISOLATED(FORM) WITH(YEH(FINAL(FORM)))) HAMZA(ABOVE(WITH(AE(FINAL(FORM)
ISOLATED(FORM)) ALEF(FINAL(FORM) ISOLATED(FORM) MAKSURA(FINAL(FORM) ISOLATED(FORM))) E(FINAL(FORM)
INITIAL(FORM) ISOLATED(FORM)) HAH(INITIAL(FORM) ISOLATED(FORM)) HEH(INITIAL(FORM) MEDIAL(FORM))
JEEM(INITIAL(FORM) ISOLATED(FORM)) KHAH(INITIAL(FORM)) MEEM(FINAL(FORM) INITIAL(FORM)
ISOLATED(FORM) MEDIAL(FORM)) NOON(FINAL(FORM)) OE(FINAL(FORM) ISOLATED(FORM)) REH(FINAL(FORM))
U(FINAL(FORM) ISOLATED(FORM)) WAW(FINAL(FORM) ISOLATED(FORM)) YEH(FINAL(FORM) ISOLATED(FORM))
YU(FINAL(FORM) ISOLATED(FORM)) ZAIN(FINAL(FORM))))) HEH(INITIAL(FORM) MEDIAL(FORM))
JEEM(INITIAL(FORM) ISOLATED(FORM) WITH(YEH(FINAL(FORM)))) KHAH(INITIAL(FORM) ISOLATED(FORM))
MEEM(FINAL(FORM) INITIAL(FORM) ISOLATED(FORM) MEDIAL(FORM) WITH(MEEM(FINAL(FORM) INITIAL(FORM))
YEH(FINAL(FORM)))) NOON(FINAL(FORM)) REH(FINAL(FORM)) YEH(FINAL(FORM) ISOLATED(FORM))
ZAIN(FINAL(FORM)))) ZAH(WITH(MEEM(INITIAL(FORM) ISOLATED(FORM) MEDIAL(FORM))))) MADDA(WAAJIB)
MADDAH(ABOVE) MARK(NOON(GHUNNA) SIDEWAYS(NOON(GHUNNA))) MATHEMATICAL(AIN ALEF BEH DAD DAL
DOTLESS(BEH FEH NOON QAF) DOUBLE-STRUCK(AIN BEH DAD DAL FEH GHAIN HAH JEEM KHAH LAM MEEM NOON QAF
REH SAD SEEN SHEEN TAH TEH THAL THEH WAW YEH ZAH ZAIN) FEH GHAIN HAH INITIAL(AIN BEH DAD FEH GHAIN
HAH HEH JEEM KAF KHAH LAM MEEM NOON QAF SAD SEEN SHEEN TEH THEH YEH) JEEM KAF KHAH LAM LOOPED(AIN
ALEF BEH DAD DAL FEH GHAIN HAH HEH JEEM KHAH LAM MEEM NOON QAF REH SAD SEEN SHEEN TAH TEH THAL THEH
WAW YEH ZAH ZAIN) MEEM NOON OPERATOR(HAH(WITH(DAL)) MEEM(WITH(HAH(WITH(TATWEEL))))) QAF REH SAD
SEEN SHEEN STRETCHED(AIN BEH DAD DOTLESS(BEH FEH) FEH GHAIN HAH HEH JEEM KAF KHAH MEEM NOON QAF SAD
SEEN SHEEN TAH TEH THEH YEH ZAH) TAH TAILED(AIN DAD DOTLESS(NOON QAF) GHAIN HAH JEEM KHAH LAM NOON
QAF SAD SEEN SHEEN YEH) TEH THAL THEH WAW YEH ZAH ZAIN) NUMBER(MARK(ABOVE) SIGN) OPEN(DAMMATAN
FATHATAN KASRATAN) PERCENT(SIGN) PIASTRE(MARK(ABOVE)) PLACE(OF(SAJDAH)) POETIC(VERSE(SIGN))
POUND(MARK(ABOVE)) QUESTION(MARK) RAISED(ROUND(DOT)) RAY REVERSED(DAMMA)
RIGHT(ARROWHEAD(ABOVE.(WITH(DOT)) BELOW)) ROUNDED(HIGH(STOP(WITH(FILLED(CENTRE))))) SEMICOLON
SHADDA.(ISOLATED(FORM) MEDIAL(FORM)) SIGN(ALAYHE(ASSALLAM) MISRA RADI(ALLAHOU(ANHU))
RAHMATULLAH(ALAYHE) SAFHA SALLALLAHOU(ALAYHE(WASSALLAM)) SAMVAT SANAH SINDHI(AMPERSAND
POSTPOSITION(MEN)) TAKHALLUS) SMALL(DAMMA FARSI(YEH) FATHA HIGH(AIN DOTLESS(HEAD(OF(KHAH)))
FARSI(YEH) FOOTNOTE(MARKER) JEEM LAM(ALEF) LIGATURE(ALEF(WITH(LAM(WITH(YEH))))
QAF(WITH(LAM(WITH(ALEF(MAKSURA))))) SAD(WITH(LAM(WITH(ALEF(MAKSURA)))))) MADDA MEEM(INITIAL(FORM)
ISOLATED(FORM)) NOON.(WITH(KASRA)) QAF ROUNDED(ZERO) SAD SEEN SIGN(SAFHA) TAH THREE(DOTS)
UPRIGHT(RECTANGULAR(ZERO)) WAW WORD(AL-JUZ AN-NISF AR-RUB AS-SAJDA ATH-THALATHA QIF SAH SAKTA
WAQFA) YEH.(BARREE(WITH(TWO(DOTS(BELOW))))) ZAH ZAIN) KASRA LOW(MEEM NOON(WITH(KASRA)) SEEN WAW
WORD(IMAALA ISHMAAM TASHEEL)) WAW YEH) START(OF(RUB(EL(HIZB)))) SUBSCRIPT(ALEF) SUKUN.(BELOW
ISOLATED(FORM) MEDIAL(FORM)) SUPERSCRIPT(ALEF(MOKHASSAS)) SYMBOL(DOT(ABOVE BELOW)
DOUBLE(VERTICAL(BAR(BELOW))) FOUR(DOTS(ABOVE BELOW)) RING SMALL(TAH(ABOVE BELOW)) THREE(DOTS(ABOVE
BELOW POINTING(DOWNWARDS(ABOVE BELOW)))) TWO(DOTS(ABOVE BELOW VERTICALLY(ABOVE BELOW)))
WASLA(ABOVE)) TAIL(FRAGMENT) TATWEEL.(WITH(FATHATAN(ABOVE) OVERSTRUCK(HAMZA WAW) TWO(DOTS(BELOW))))
THOUSANDS(SEPARATOR) TONE(LOOP(ABOVE BELOW) ONE(DOT(ABOVE BELOW)) TWO(DOTS(ABOVE BELOW)))
TRIPLE(DOT(PUNCTUATION(MARK))) TURNED(DAMMA(BELOW)) VERTICAL(TAIL) VOWEL(SIGN(DOT(BELOW)
INVERTED(SMALL(V(ABOVE))) SMALL(V(ABOVE)))) WAVY(HAMZA(BELOW)) ZWARAKAY) ARABIC-INDIC(CUBE(ROOT)
DIGIT(EIGHT FIVE FOUR NINE ONE SEVEN SIX THREE TWO ZERO) FOURTH(ROOT) PER(MILLE(SIGN)
TEN(THOUSAND(SIGN)))) ARC ARIES ARMENIAN(ABBREVIATION(MARK) APOSTROPHE CAPITAL(LETTER(AYB BEN CA
CHA CHEH CO DA ECH EH ET FEH GHAD GIM HO INI JA JHEH KEH KEN LIWN MEN NOW OH PEH PIWR RA REH SEH
SHA TIWN TO VEW VO XEH YI YIWN ZA ZHE)) COMMA DRAM(SIGN) EMPHASIS(MARK) EXCLAMATION(MARK)
FULL(STOP) HYPHEN MODIFIER(LETTER(LEFT(HALF(RING)))) QUESTION(MARK) SMALL(LETTER(AYB BEN CA CHA
CHEH CO DA ECH EH ET FEH GHAD GIM HO INI JA JHEH KEH KEN LIWN MEN NOW OH PEH PIWR RA REH SEH SHA
TIWN TO TURNED(AYB) VEW VO XEH YI.(WITH(STROKE)) YIWN ZA ZHE) LIGATURE(ECH(YIWN) MEN(ECH INI NOW
XEH) VEW(NOW)))) ARROW(POINTING(DOWNWARDS(THEN(CURVING(LEFTWARDS RIGHTWARDS)))
RIGHTWARDS(THEN(CURVING(DOWNWARDS SOUTH(WEST) UPWARDS))) UPWARDS(THEN(NORTH(WEST)))))
ARROWHEAD-SHAPED(POINTER) ARTICULATED(LORRY) ARTIST(PALETTE) ASCENDING(NODE) ASCIA(SYMBOL)
ASSERTION ASTERISK.(OPERATOR) ASTERISM ASTONISHED(FACE) ASTRAEA ASTRONOMICAL(SYMBOL(FOR(URANUS)))
ASYMPTOTICALLY(EQUAL(TO)) ATHLETIC(SHOE) ATOM(SYMBOL) AUBERGINE AUSTRAL(SIGN) AUTO(RICKSHAW)
AUTOMATED(TELLER(MACHINE)) AUTOMOBILE AVESTAN(ABBREVIATION(MARK) LETTER(A AA AAN AAO AE AEE AN AO
BE BHE CE DE DHE E EE FE GE GGE GHE HE HME I II JE KE LE ME NE NGE NGVE NGYE NNE NYE O OO PE RE SE
SHE SHYE SSHE TE THE TTE U UU VE XE XVE XYE YE YYE ZE ZHE)) AVOCADO AXE BABY.(ANGEL BOTTLE CHICK
SYMBOL) BACK(OF(ENVELOPE) WITH(LEFTWARDS(ARROW(ABOVE))))
BACK-TILTED(SHADOWED(WHITE(RIGHTWARDS(ARROW)))) BACKSLANTED(SOUTH(ARROW(WITH(HOOKED(TAIL)
HORIZONTAL(TAIL))))) BACKSPACE BACON BACTRIAN(CAMEL) BADGER BADMINTON(RACQUET(AND(SHUTTLECOCK)))
BAGEL BAGGAGE(CLAIM) BAGUETTE(BREAD) BALINESE(ADEG(ADEG) CARIK(PAMUNGKAH PAREREN SIKI) DIGIT(EIGHT
FIVE FOUR NINE ONE SEVEN SIX THREE TWO ZERO) LETTER(AIKARA AKARA.(TEDUNG) ARCHAIC(JNYA)
ASYURA(SASAK) BA.(KEMBANG) CA.(LACA) DA.(MADU MURDA(ALPAPRANA MAHAPRANA)) EF(SASAK) EKARA GA.(GORA)
HA IKARA.(TEDUNG) JA.(JERA) KA.(MAHAPRANA) KAF(SASAK) KHOT(SASAK) LA.(LENGA.(TEDUNG)) MA
NA.(RAMBAT) NGA NYA OKARA.(TEDUNG) PA.(KAPAL) RA.(REPA.(TEDUNG)) SA.(SAGA SAPA) TA.(LATIK
MURDA(MAHAPRANA) TAWA) TZIR(SASAK) UKARA.(TEDUNG) VE(SASAK) WA YA ZAL(SASAK))
MUSICAL(SYMBOL(COMBINING(BENDE ENDEP GONG JEGOGAN KEMPLI.(WITH(JEGOGAN)) KEMPUL.(WITH(JEGOGAN))
TEGEH) DAENG DAING DANG.(GEDE SURANG) DENG DEUNG DING DONG DUNG LEFT-HAND(CLOSED(PLAK PLUK)
OPEN(PANG PING PUNG)) RIGHT-HAND(CLOSED(TAK TUK) OPEN(DAG DUG)))) PAMADA.(LANTANG) PAMENENG
PANTI.(LANTANG) SIGN(BISAH CECEK REREKAN SURANG ULU(CANDRA RICEM)) VOWEL(SIGN(LA(LENGA.(TEDUNG))
PEPET.(TEDUNG) RA(REPA.(TEDUNG)) SUKU.(ILUT) TALING.(REPA.(TEDUNG) TEDUNG) TEDUNG ULU.(SARI)))
WINDU) BALL(OF(YARN)) BALLET(SHOES) BALLOON BALLOON-SPOKED(ASTERISK) BALLOT(BOLD(SCRIPT(X))
BOX.(WITH(BALLOT BOLD(CHECK SCRIPT(X)) CHECK LIGHT(X) SCRIPT(X) X)) SCRIPT(X) X) BAMUM(COLON
COMBINING(MARK(KOQNDON TUKWENTIS)) COMMA FULL(STOP) LETTER(A EE FAAMAE FEE FOM FU I KA KEN KET KEUX
KI KO KOGHOM KOVUU KPA KU KYEE LA LEEEE LI LOQ LU M MA MBAA MBEN MEEEE MEN MI MO MU NA NDAA NGA
NGGA NGKWAEN NI NJAEM NJEE NJUAE NSHA NTEE NTUU NU NUAE NYI O PA PEE PEUX PHASE-A(FIRI GBIEE(FON)
GHEUAEGHEUAE GHEUAERAE KAFA KAQ KET KEUKEUTNDA KPOQ KUOQ LAPAQ LET(KUT) LOMMAE LU LUAEP MAEKEUP
MAEM MAEMBGBIEE MAEMKPEN MAEMVEUX MAENYI MAESI MANSUAE MAP(PIEET) MBANYI MBAQ MEUNJOMNDEUQ MGBASA
MON(NGGEUAET) MOOMEUT MOOMPUQ MVEUAENGAM NAA(MFON) NAQ NDA(LEERAEWA) NDAANGGEUAET NEN NGANGU NGGEN
NGKUE(MFON) NGKUENZEUM NIKA NJAM NKAARAE NKINDI NSHA NSHIEE NTAP.(MFAA NTAA) NTOQPEN NYET NYI
NYIT(MONGKEUAEQ) NZA(MFON) NZUN(MEUT) PA(LEERAEWA) PAAM PAARAE PAMSHAE PASHAE PET PON(MFON(PIPAEMBA
PIPAEMGBIEE) PA(NJI(PIPAEMBA PIPAEMGBIEE))) PUP ROM SEUNYAM SHINDA(PA(NJI)) SHIRAE SHOQ(NSHUT(YUM))
SHUENSHUET SHUM SISA SONJAM SOQ SOT SUU TEUAEN TEUTEUWEN TITA(MFON) TU(MAEMBA) TUAEP U(YUQ(NAE))
UNKNOWN VEE) PHASE-B(FEE FEUX GHEUGHEN GHEUGHEUAEM KAM KEUAEM KEUPUQ KEUYEUX KIEEM KIQ LAANAE
LAM(NSHUT(NYAM)) LET LOM(NTEUM) MA.(NJEUAENA NJUQA) MBA(MAELEE) MBAARAE MBEURI MBIT(MBAAKET) MBUOQ
MEUQ MEUT(NGGEET) MFIYAQ MFON(TEUAEQ) MONTIEEN NDU(NJAA) NGGAAM NGGEU(MBU) NGGUOQ.(LARGE)
NGKINDI(MVOP) NGOM NSEN NSHUET NTIEE(SHEUOQ) NYAEMAE NYI(NTEUM) PARUM PEESHI PIT PUNGAAM SAKEUAE
SET(TU) SHET(NJAQ) SHEUAEQTU SIEE SUE TAAM TU(MAEMGBIEE NSIEE) VEUM WUAET YAFU(LEERAEWA) YEURAE)
PHASE-C(BUNG FUE GBAYI GHAP GHARAE KAA KEN(FATIGUE LAW) KET KEUKAQ KEUM KEUSEUX KEUSHEUAEP KPARAQ
KUOP(NKAARAE) KUT LAM LAP LIQ LU MA(KEUAERI NSIEE) MAEMBA MAESI MBAA(CABBAGE-TREE PICKET) MBANYI
MBEEKEET MBERAE MBEUM MBEUX MBI MBIRIEEN MBIT MBUAEM MBUE MGBASAQ MIEE MUAE NANSANAQ NAQ NDAM NDAP
NDEUAEREE NDEUT NDIDA NDOMBU NGAQ NGGEN NGGU NGGUAEN(NYAM) NGGUEET NGGUM NGGUON NGKAQ NGKUE(MAEMBA)
NGOM NJAEM NJAM NJEEEE NJEUX NJUEQ NSA NSEUAEN NSHAQ NSOM NSUN NSUOT(NGOM) NTAA NTEN NTEUNGBA
NTU(MBIT) NYIR(MKPARAQ(MEUN)) NZA NZEUM PEN PIN PIRIEEN RU SETFON SEUX SHIQ SHUEQ SUAET TAASHAE TET
TEUTEUX TITA(YUE) TITUAEP VEUAEPEN VEUX WANGKUOQ WUP YAA YEUQ YU(MUOMAE) YUM YUWOQ) PHASE-D(FAA
FEUFEUAET GHAA GHEUAE KET KEUAETMEUN KEUM KEUOT(MBUAE) KEUP KU KUN KUOM KUQ KWAET KYEE LEEEE LET
LEUAEP LEUM LIEE LOQ LUM M MAENJET MALEERI MBAA.(SEVEN) MBUO MEEEE MEUN MEUT MFEUAE MFEUT MFIEE MFO
MFON MGBEUN MGBIEE MGBOFUM MONI MU MVOP NDAM NDEE NDEUX NDON NGGAAM NGGAAMAE NGGAP NGGEUX NGGUOM
NGGWAEN NGKAP NGKEUAEQ NGKEURI NGKIEE NGKUN NGKYEE NI NJAP NJEUAEM NJEUT NJI NJIEE NJUEQ NSHEE
NSHUT NSIEEP NSIEET NSUM NTEE NTEUM NTUU NU NYAM NYET NYI NYUE PAP PEE PEUTAE PIP PUQ PUUT RAEM
REN(MUCH OLD) RII SAP SAQ SEUAEQ SHEE SHEUAE SHEUX SHII SHOQ SHU SOT SUAE SUE SUU TAE TEEEE TEUAEN
TEUN TEUT TI TOQ TU TUOT WAP WUAEN YAEMMAE YEN YUOM YUOP YUWOQ) PHASE-E(A FA FAQ FEE FOM FU(CALL I
REMEDY) FUE FUET GBET GBEUX GHAAMAE GHET GHEUAE GHEUN GHEUX GHOM I KET KEUAE KEUX KI KO KPEUX KUET
KUOP KUT LAAM LAP LAQ LEUAEM LOM LOON LOOT LOQ LU MA MAE MAEM MAP MAQ MBEE MBEUM MEN MFEUQ MGBA
MGBEN MI MIEE MON MUAE MVI NA NAE NDAA(MY(HOUSE) SOFTNESS) NDAP NDIAQ NDIQ NDUN NGA NGEUREUT
NGGEEEE NGGEUAE NGGEUAET NGGUAESHAE(NYAM) NGGUP NGGURAE NGKA NGKAAMI NGKEUAEM NGKEUX NGKUM NGKUP
NGOP NGOQ NGUAE NGUAET NJAEMLI NJEE.(EPOCH) NJEUX NKOM NSHIEE NSHUE NSHUOP NTAP NTUM NYI(BETWEEN
CLEAVER) NZAQ NZUQ O PA(PEOPLE PLURAL) PAA PAAM PEEM PEUT PEUX PI PIEEQ PIET PO POON PU PUAE PUAQ
PUE PUM RAE RAQ REUX RIMGBA SAA SEE SET SHEUAEQ SHIQ SHO SHOQ SOM SUAEN TAA TAAQ TAEN(NTEUM) TAM
TAQ TEN TEU TEUAEQ TOO TOON TOQ TUAE TUM TUMAE VEE VEUAE VOM WEUX WUE WUO YAP YEUAE YEUAET YEUM
YEUX YIEE YIT YOQ(COVER SWIMMING) YUAEN YUEQ YUN YUQ) PHASE-F(EE FOM KA KEN KET KO KPA KU KYEE LA
LI LOQ M MA MBAA MBEN MEEEE MO NDAA NGGA NGKWAEN NI NJAEM NJUAE NSHA NTEE NU NUAE NYI PEE PEUX PUAE
REE REN REUX RIEE RII RU SAMBA SEUX SHII SHO SHU SI SUU TAA TAE TET U VUEQ WA WUE YA YOQ) PI PUAE
PUE RAE REE REN REUX RIEE RII RU SAMBA SEUX SHEUX SHII SHO SHU SI SUU TAA TAE TEN TET TI U WA WUE
YA YOQ YUQ) NJAEMLI QUESTION(MARK) SEMICOLON) BANANA BANJO BANK BANKNOTE(WITH(DOLLAR(SIGN)
EURO(SIGN) POUND(SIGN) YEN(SIGN))) BAR(CHART OF(SOAP)) BARBER(POLE) BASEBALL BASKET
BASKETBALL(AND(HOOP)) BASSA(VAH(COMBINING(HIGH(TONE) HIGH-LOW(TONE) LOW(TONE) LOW-MID(TONE)
MID(TONE)) FULL(STOP) LETTER(A BA CE DHII DO E EE ENNI FA GAH GBU HWAH I JO KA KPAH MBE O OO PA SE
TO U UWU VU WA WADDA YEIN YIE ZO))) BAT BATAK(CONSONANT(SIGN(H NG)) LETTER(A BA CA DA GA HA I JA
KARO(BA) LA MA MANDAILING(HA NA SA) MBA NA NDA NGA NORTHERN(TA) NYA PA PAKPAK(WA) RA SA
SIMALUNGUN(A GA HA LA MA PA RA SA WA YA) SOUTHERN(TA) U WA YA) PANGOLAT PANONGONAN SIGN(TOMPI)
SYMBOL(BINDU(JUDUL NA(METEK) PANGOLAT PINARBORAS)) VOWEL(SIGN(E EE I KARO(I O) O PAKPAK(E)
U.(FOR(SIMALUNGUN(SA)))))) BATH BATHTUB BATTERY BEACH(WITH(UMBRELLA))
BEAMED(ASCENDING(MUSICAL(NOTES)) DESCENDING(MUSICAL(NOTES)) EIGHTH(NOTES) SIXTEENTH(NOTES)) BEANS
BEAR(FACE) BEARDED(PERSON) BEATING(HEART) BEAVER BECAUSE BED BEER(MUG) BEETLE BEL BELL.(PEPPER
SYMBOL WITH(CANCELLATION(STROKE))) BELLHOP(BELL) BENGALI(ABBREVIATION(SIGN) ANJI AU(LENGTH(MARK))
CURRENCY(DENOMINATOR(SIXTEEN) NUMERATOR(FOUR ONE.(LESS(THAN(THE(DENOMINATOR)))) THREE TWO))
DIGIT(EIGHT FIVE FOUR NINE ONE SEVEN SIX THREE TWO ZERO) GANDA(MARK) ISSHAR LETTER(A AA AI AU BA
BHA CA CHA DA DDA DDHA DHA E GA GHA HA I II JA JHA KA KHA KHANDA(TA) LA MA NA NGA NNA NYA O PA PHA
RA.(WITH(LOWER(DIAGONAL) MIDDLE(DIAGONAL))) RHA RRA SA SHA SSA TA THA TTA TTHA U UU VEDIC(ANUSVARA)
VOCALIC(L LL R RR) YA YYA) RUPEE(MARK SIGN) SANDHI(MARK) SIGN(ANUSVARA AVAGRAHA CANDRABINDU NUKTA
VIRAMA VISARGA) VOWEL(SIGN(AA AI AU E I II O U UU VOCALIC(L LL R RR))))
BENT(ARROW(POINTING(DOWNWARDS(THEN(NORTH(EAST)))))) BENTO(BOX) BENZENE(RING.(WITH(CIRCLE)))
BET(SYMBOL) BETWEEN BEVERAGE(BOX) BHAIKSUKI(DANDA DIGIT(EIGHT FIVE FOUR NINE ONE SEVEN SIX THREE
TWO ZERO) DOUBLE(DANDA) GAP(FILLER-1 FILLER-2) HUNDREDS(UNIT(MARK)) LETTER(A AA AI AU BA BHA CA CHA
DA DDA DDHA DHA E GA GHA HA I II JA JHA KA KHA LA MA NA NGA NNA NYA O PA PHA RA SA SHA SSA TA THA
TTA TTHA U UU VA VOCALIC(L R RR) YA) NUMBER(EIGHT EIGHTY FIFTY FIVE FORTY FOUR NINE NINETY ONE
SEVEN SEVENTY SIX SIXTY TEN THIRTY THREE TWENTY TWO) SIGN(ANUSVARA AVAGRAHA CANDRABINDU VIRAMA
VISARGA) VOWEL(SIGN(AA AI AU E I II O U UU VOCALIC(L R RR))) WORD(SEPARATOR)) BICYCLE BICYCLIST
BIG(REVERSE(SOLIDUS) SOLIDUS) BIKINI BILLED(CAP) BILLIARDS BIOHAZARD(SIGN) BIRD BIRTHDAY(CAKE)
BISON BITCOIN(SIGN) BITING(LIP) BLACK(BOWTIE CENTRE(WHITE(STAR))
CHESS(BISHOP.(ROTATED(NINETY(DEGREES) TWO(HUNDRED(SEVENTY(DEGREES)))))
EQUIHOPPER.(ROTATED(NINETY(DEGREES))) KING.(ROTATED(NINETY(DEGREES)
TWO(HUNDRED(SEVENTY(DEGREES))))) KNIGHT.(ROTATED(FORTY-FIVE(DEGREES) NINETY(DEGREES)
ONE(HUNDRED(THIRTY-FIVE(DEGREES))) THREE(HUNDRED(FIFTEEN(DEGREES))) TWO(HUNDRED(SEVENTY(DEGREES)
TWENTY-FIVE(DEGREES))))) KNIGHT-BISHOP KNIGHT-QUEEN KNIGHT-ROOK PAWN.(ROTATED(NINETY(DEGREES)
TWO(HUNDRED(SEVENTY(DEGREES))))) QUEEN.(ROTATED(NINETY(DEGREES) TWO(HUNDRED(SEVENTY(DEGREES)))))
ROOK.(ROTATED(NINETY(DEGREES) TWO(HUNDRED(SEVENTY(DEGREES))))) TURNED(BISHOP KING KNIGHT PAWN QUEEN
ROOK)) CIRCLE.(FOR(RECORD) WITH(DOWN(ARROW) TWO(WHITE(DOTS)) WHITE(DOT(RIGHT)))) CLUB(SUIT)
CROSS(ON(SHIELD)) CURVED(DOWNWARDS(AND(LEFTWARDS(ARROW) RIGHTWARDS(ARROW)))
LEFTWARDS(AND(DOWNWARDS(ARROW) UPWARDS(ARROW))) RIGHTWARDS(AND(DOWNWARDS(ARROW) UPWARDS(ARROW)))
UPWARDS(AND(LEFTWARDS(ARROW) RIGHTWARDS(ARROW)))) DIAMOND.(CENTRED MINUS(WHITE(X)) ON(CROSS) SUIT
WITH(DOWN(ARROW))) DOWN(POINTING(BACKHAND(INDEX))) DOWN-POINTING(DOUBLE(TRIANGLE)
ISOSCELES(RIGHT(TRIANGLE)) SMALL(TRIANGLE) TRIANGLE) DOWNWARDS(EQUILATERAL(ARROWHEAD))
DRAUGHTS(KING MAN) DROPLET FLAG FLORETTE FOLDER FOUR(POINTED(STAR)) HARD(SHELL(FLOPPY(DISK)))
HEART.(SUIT) HEXAGON HORIZONTAL(ELLIPSE) HOURGLASS LARGE(CIRCLE SQUARE) LEFT(LANE(MERGE)
POINTING(BACKHAND(INDEX) INDEX)) LEFT-POINTING(DOUBLE(TRIANGLE.(WITH(VERTICAL(BAR))))
ISOSCELES(RIGHT(TRIANGLE)) POINTER SMALL(TRIANGLE) TRIANGLE) LEFTWARDS(BULLET
EQUILATERAL(ARROWHEAD)) LOWER(LEFT(TRIANGLE) RIGHT(TRIANGLE)) LOZENGE MEDIUM(DIAMOND
DOWN-POINTING(TRIANGLE.(CENTRED)) LEFT-POINTING(TRIANGLE.(CENTRED)) LOZENGE
RIGHT-POINTING(TRIANGLE.(CENTRED)) SMALL(DIAMOND LOZENGE SQUARE) SQUARE
UP-POINTING(TRIANGLE.(CENTRED))) MOON(LILITH) NIB OCTAGON PARALLELOGRAM PENNANT PENTAGON PUSHPIN
QUESTION(MARK(ORNAMENT)) RECTANGLE RIGHT(POINTING(BACKHAND(INDEX) INDEX))
RIGHT-POINTING(DOUBLE(TRIANGLE.(WITH(VERTICAL(BAR)))) ISOSCELES(RIGHT(TRIANGLE)) PENTAGON POINTER
SMALL(TRIANGLE) TRIANGLE.(WITH(DOUBLE(VERTICAL(BAR))))) RIGHTWARDS(ARROW ARROWHEAD BULLET
EQUILATERAL(ARROWHEAD)) ROSETTE SAFETY(SCISSORS) SCISSORS SHOGI(PIECE) SKULL(AND(CROSSBONES))
SLIGHTLY(SMALL(CIRCLE SQUARE)) SMALL(DIAMOND LOZENGE SQUARE STAR) SMILING(FACE) SNOWMAN SPADE(SUIT)
SQUARE.(BUTTON CENTRED FOR(STOP)) STAR SUN(WITH(RAYS)) TELEPHONE TINY(DIAMOND LOZENGE SQUARE)
TOUCHTONE(TELEPHONE) TRUCK TWO-WAY(LEFT(WAY(TRAFFIC))) UNIVERSAL(RECYCLING(SYMBOL))
UP(POINTING(BACKHAND(INDEX))) UP-POINTING(DOUBLE(TRIANGLE) ISOSCELES(RIGHT(TRIANGLE))
SMALL(TRIANGLE) TRIANGLE) UPPER(LEFT(TRIANGLE) RIGHT(TRIANGLE)) UPWARDS(EQUILATERAL(ARROWHEAD))
VERTICAL(ELLIPSE RECTANGLE) VERY(SMALL(DIAMOND LOZENGE SQUARE))) BLACK-FEATHERED(NORTH(EAST(ARROW))
RIGHTWARDS(ARROW) SOUTH(EAST(ARROW))) BLACK-LETTER(CAPITAL(C H I R Z)) BLANK(SYMBOL)
BLOCK(SEXTANT-1 SEXTANT-12 SEXTANT-123 SEXTANT-1234 SEXTANT-12345 SEXTANT-12346 SEXTANT-1235
SEXTANT-12356 SEXTANT-1236 SEXTANT-124 SEXTANT-1245 SEXTANT-12456 SEXTANT-1246 SEXTANT-125
SEXTANT-1256 SEXTANT-126 SEXTANT-13 SEXTANT-134 SEXTANT-1345 SEXTANT-13456 SEXTANT-1346
SEXTANT-1356 SEXTANT-136 SEXTANT-14 SEXTANT-145 SEXTANT-1456 SEXTANT-146 SEXTANT-15 SEXTANT-156
SEXTANT-16 SEXTANT-2 SEXTANT-23 SEXTANT-234 SEXTANT-2345 SEXTANT-23456 SEXTANT-2346 SEXTANT-235
SEXTANT-2356 SEXTANT-236 SEXTANT-24 SEXTANT-245 SEXTANT-2456 SEXTANT-25 SEXTANT-256 SEXTANT-26
SEXTANT-3 SEXTANT-34 SEXTANT-345 SEXTANT-3456 SEXTANT-346 SEXTANT-35 SEXTANT-356 SEXTANT-36
SEXTANT-4 SEXTANT-45 SEXTANT-456 SEXTANT-46 SEXTANT-5 SEXTANT-56 SEXTANT-6) BLOSSOM BLOWFISH
BLUE(BOOK HEART) BLUEBERRIES BOAR BOLD(EIGHT(SPOKED(ASTERISK)) FIVE(SPOKED(ASTERISK)) GREEK(CROSS)
SALTIRE SIX(SPOKED(ASTERISK)) WHITE(CIRCLE SQUARE)) BOM BOMB BONE BOOK BOOKMARK.(TABS) BOOKS
BOOMERANG BOPOMOFO(FINAL(LETTER(G H K P T)) LETTER(A AH AI AINN AM AN ANG ANN AU AUNN B BU C CH D E
EE EH EI EN ENG ENN ER F G GH GN GU GW H I IH IM INN INNN IR IU J JI K KW L LH M N NG NGG NN
O.(WITH(DOT(ABOVE))) OE OM ONG ONN OO OU P Q R S SH T U UNN V X Z ZH ZI ZY))
BOTTLE(WITH(POPPING(CORK))) BOTTOM(ARC(ANTICLOCKWISE(ARROW)) CURLY(BRACKET) HALF(BLACK(CIRCLE)
INTEGRAL LEFT(PARENTHESIS) RIGHT(PARENTHESIS)) LEFT(CORNER CROP HALF(BRACKET)) PARENTHESIS
RIGHT(CORNER CROP HALF(BRACKET)) SQUARE(BRACKET.(OVER(TOP(SQUARE(BRACKET)))))
TORTOISE(SHELL(BRACKET))) BOUQUET.(OF(FLOWERS)) BOW(AND(ARROW)) BOWL(OF(HYGIEIA) WITH(SPOON))
BOWLING BOWTIE.(WITH(LEFT(HALF(BLACK)) RIGHT(HALF(BLACK)))) BOX(DRAWINGS(DOUBLE(DOWN(AND(HORIZONTAL
LEFT RIGHT)) HORIZONTAL UP(AND(HORIZONTAL LEFT RIGHT)) VERTICAL.(AND(HORIZONTAL LEFT RIGHT)))
DOWN(DOUBLE(AND(HORIZONTAL(SINGLE) LEFT(SINGLE) RIGHT(SINGLE))) HEAVY(AND(HORIZONTAL(LIGHT)
LEFT(LIGHT UP(LIGHT)) RIGHT(LIGHT UP(LIGHT)) UP(HORIZONTAL(LIGHT)))) LIGHT(AND(HORIZONTAL(HEAVY)
LEFT(HEAVY UP(HEAVY)) RIGHT(HEAVY UP(HEAVY)) UP(HORIZONTAL(HEAVY)))) SINGLE(AND(HORIZONTAL(DOUBLE)
LEFT(DOUBLE) RIGHT(DOUBLE)))) HEAVY(DOUBLE(DASH(HORIZONTAL VERTICAL)) DOWN.(AND(HORIZONTAL LEFT
RIGHT)) HORIZONTAL LEFT.(AND(LIGHT(RIGHT))) QUADRUPLE(DASH(HORIZONTAL VERTICAL)) RIGHT
TRIPLE(DASH(HORIZONTAL VERTICAL)) UP.(AND(HORIZONTAL LEFT LIGHT(DOWN) RIGHT))
VERTICAL.(AND(HORIZONTAL LEFT RIGHT))) LEFT(DOWN(HEAVY(AND(RIGHT(UP(LIGHT)))))
HEAVY(AND(RIGHT(DOWN(LIGHT) UP(LIGHT) VERTICAL(LIGHT)))) LIGHT(AND(RIGHT(DOWN(HEAVY) UP(HEAVY)
VERTICAL(HEAVY)))) UP(HEAVY(AND(RIGHT(DOWN(LIGHT)))))) LIGHT(ARC(DOWN(AND(LEFT RIGHT)) UP(AND(LEFT
RIGHT))) DIAGONAL(CROSS DIAMOND MIDDLE(LEFT(TO(LOWER(CENTRE.(TO(MIDDLE(RIGHT))))
UPPER(CENTRE(TO(MIDDLE(RIGHT.(TO(LOWER(CENTRE))))))))) RIGHT(TO(LOWER(CENTRE)
UPPER(CENTRE(TO(MIDDLE(LEFT(TO(LOWER(CENTRE))))))))))
UPPER(CENTRE(TO(MIDDLE(LEFT.(AND(MIDDLE(RIGHT(TO(LOWER(CENTRE)))))
TO(LOWER(CENTRE.(TO(MIDDLE(RIGHT)))))) RIGHT.(AND(MIDDLE(LEFT(TO(LOWER(CENTRE)))))
TO(LOWER(CENTRE.(TO(MIDDLE(LEFT))))))))) LEFT(TO(LOWER(RIGHT))) RIGHT(TO(LOWER(LEFT)))))
DOUBLE(DASH(HORIZONTAL VERTICAL)) DOWN.(AND(HORIZONTAL LEFT RIGHT))
HORIZONTAL.(WITH(VERTICAL(STROKE))) LEFT.(AND(HEAVY(RIGHT))) QUADRUPLE(DASH(HORIZONTAL VERTICAL))
RIGHT TRIPLE(DASH(HORIZONTAL VERTICAL)) UP.(AND(HEAVY(DOWN) HORIZONTAL LEFT RIGHT))
VERTICAL.(AND(HORIZONTAL LEFT RIGHT))) RIGHT(DOWN(HEAVY(AND(LEFT(UP(LIGHT)))))
HEAVY(AND(LEFT(DOWN(LIGHT) UP(LIGHT) VERTICAL(LIGHT)))) LIGHT(AND(LEFT(DOWN(HEAVY) UP(HEAVY)
VERTICAL(HEAVY)))) UP(HEAVY(AND(LEFT(DOWN(LIGHT)))))) UP(DOUBLE(AND(HORIZONTAL(SINGLE) LEFT(SINGLE)
RIGHT(SINGLE))) HEAVY(AND(DOWN(HORIZONTAL(LIGHT)) HORIZONTAL(LIGHT) LEFT(DOWN(LIGHT) LIGHT)
RIGHT(DOWN(LIGHT) LIGHT))) LIGHT(AND(DOWN(HORIZONTAL(HEAVY)) HORIZONTAL(HEAVY) LEFT(DOWN(HEAVY)
HEAVY) RIGHT(DOWN(HEAVY) HEAVY))) SINGLE(AND(HORIZONTAL(DOUBLE) LEFT(DOUBLE) RIGHT(DOUBLE))))
VERTICAL(DOUBLE(AND(HORIZONTAL(SINGLE) LEFT(SINGLE) RIGHT(SINGLE))) HEAVY(AND(HORIZONTAL(LIGHT)
LEFT(LIGHT) RIGHT(LIGHT))) LIGHT(AND(HORIZONTAL(HEAVY) LEFT(HEAVY) RIGHT(HEAVY)))
SINGLE(AND(HORIZONTAL(DOUBLE) LEFT(DOUBLE) RIGHT(DOUBLE)))))) BOXING(GLOVE) BOY BOYS(SYMBOL) BPH
BRAHMI(DANDA DIGIT(EIGHT FIVE FOUR NINE ONE SEVEN SIX THREE TWO ZERO) DOUBLE(DANDA) LETTER(A AA AI
AU BA BHA CA CHA DA DDA DDHA DHA E GA GHA HA I II JA JHA KA KHA LA LLA MA NA NGA NNA NYA O
OLD(TAMIL(LLA LLLA NNNA RRA SHORT(E O))) PA PHA RA SA SHA SSA TA THA TTA TTHA U UU VA VOCALIC(L LL
R RR) YA) NUMBER(EIGHT EIGHTY FIFTY FIVE FORTY FOUR JOINER NINE NINETY ONE.(HUNDRED THOUSAND) SEVEN
SEVENTY SIX SIXTY TEN THIRTY THREE TWENTY TWO) PUNCTUATION(CRESCENT(BAR) DOT DOUBLE(DOT) LINE
LOTUS) SIGN(ANUSVARA CANDRABINDU JIHVAMULIYA OLD(TAMIL(VIRAMA)) UPADHMANIYA VISARGA) VIRAMA
VOWEL(SIGN(AA AI AU BHATTIPROLU(AA) E I II O OLD(TAMIL(SHORT(E O))) U UU VOCALIC(L LL R RR))))
BRAILLE(PATTERN(BLANK DOTS-1 DOTS-12 DOTS-123 DOTS-1234 DOTS-12345 DOTS-123456 DOTS-1234567
DOTS-12345678 DOTS-1234568 DOTS-123457 DOTS-1234578 DOTS-123458 DOTS-12346 DOTS-123467 DOTS-1234678
DOTS-123468 DOTS-12347 DOTS-123478 DOTS-12348 DOTS-1235 DOTS-12356 DOTS-123567 DOTS-1235678
DOTS-123568 DOTS-12357 DOTS-123578 DOTS-12358 DOTS-1236 DOTS-12367 DOTS-123678 DOTS-12368 DOTS-1237
DOTS-12378 DOTS-1238 DOTS-124 DOTS-1245 DOTS-12456 DOTS-124567 DOTS-1245678 DOTS-124568 DOTS-12457
DOTS-124578 DOTS-12458 DOTS-1246 DOTS-12467 DOTS-124678 DOTS-12468 DOTS-1247 DOTS-12478 DOTS-1248
DOTS-125 DOTS-1256 DOTS-12567 DOTS-125678 DOTS-12568 DOTS-1257 DOTS-12578 DOTS-1258 DOTS-126
DOTS-1267 DOTS-12678 DOTS-1268 DOTS-127 DOTS-1278 DOTS-128 DOTS-13 DOTS-134 DOTS-1345 DOTS-13456
DOTS-134567 DOTS-1345678 DOTS-134568 DOTS-13457 DOTS-134578 DOTS-13458 DOTS-1346 DOTS-13467
DOTS-134678 DOTS-13468 DOTS-1347 DOTS-13478 DOTS-1348 DOTS-135 DOTS-1356 DOTS-13567 DOTS-135678
DOTS-13568 DOTS-1357 DOTS-13578 DOTS-1358 DOTS-136 DOTS-1367 DOTS-13678 DOTS-1368 DOTS-137
DOTS-1378 DOTS-138 DOTS-14 DOTS-145 DOTS-1456 DOTS-14567 DOTS-145678 DOTS-14568 DOTS-1457
DOTS-14578 DOTS-1458 DOTS-146 DOTS-1467 DOTS-14678 DOTS-1468 DOTS-147 DOTS-1478 DOTS-148 DOTS-15
DOTS-156 DOTS-1567 DOTS-15678 DOTS-1568 DOTS-157 DOTS-1578 DOTS-158 DOTS-16 DOTS-167 DOTS-1678
DOTS-168 DOTS-17 DOTS-178 DOTS-18 DOTS-2 DOTS-23 DOTS-234 DOTS-2345 DOTS-23456 DOTS-234567
DOTS-2345678 DOTS-234568 DOTS-23457 DOTS-234578 DOTS-23458 DOTS-2346 DOTS-23467 DOTS-234678
DOTS-23468 DOTS-2347 DOTS-23478 DOTS-2348 DOTS-235 DOTS-2356 DOTS-23567 DOTS-235678 DOTS-23568
DOTS-2357 DOTS-23578 DOTS-2358 DOTS-236 DOTS-2367 DOTS-23678 DOTS-2368 DOTS-237 DOTS-2378 DOTS-238
DOTS-24 DOTS-245 DOTS-2456 DOTS-24567 DOTS-245678 DOTS-24568 DOTS-2457 DOTS-24578 DOTS-2458
DOTS-246 DOTS-2467 DOTS-24678 DOTS-2468 DOTS-247 DOTS-2478 DOTS-248 DOTS-25 DOTS-256 DOTS-2567
DOTS-25678 DOTS-2568 DOTS-257 DOTS-2578 DOTS-258 DOTS-26 DOTS-267 DOTS-2678 DOTS-268 DOTS-27
DOTS-278 DOTS-28 DOTS-3 DOTS-34 DOTS-345 DOTS-3456 DOTS-34567 DOTS-345678 DOTS-34568 DOTS-3457
DOTS-34578 DOTS-3458 DOTS-346 DOTS-3467 DOTS-34678 DOTS-3468 DOTS-347 DOTS-3478 DOTS-348 DOTS-35
DOTS-356 DOTS-3567 DOTS-35678 DOTS-3568 DOTS-357 DOTS-3578 DOTS-358 DOTS-36 DOTS-367 DOTS-3678
DOTS-368 DOTS-37 DOTS-378 DOTS-38 DOTS-4 DOTS-45 DOTS-456 DOTS-4567 DOTS-45678 DOTS-4568 DOTS-457
DOTS-4578 DOTS-458 DOTS-46 DOTS-467 DOTS-4678 DOTS-468 DOTS-47 DOTS-478 DOTS-48 DOTS-5 DOTS-56
DOTS-567 DOTS-5678 DOTS-568 DOTS-57 DOTS-578 DOTS-58 DOTS-6 DOTS-67 DOTS-678 DOTS-68 DOTS-7 DOTS-78
DOTS-8)) BRAIN BREAD BREAK(PERMITTED(HERE)) BREAST-FEEDING BREVE BRICK BRIDE(WITH(VEIL))
BRIDGE(AT(NIGHT)) BRIEFCASE BRIEFS BROCCOLI BROKEN(BAR CIRCLE(WITH(NORTHWEST(ARROW))) HEART) BROOM
BROWN(HEART) BS BUBBLE(TEA) BUBBLES BUCKET BUG BUGINESE(END(OF(SECTION)) LETTER(A BA CA DA GA HA JA
KA LA MA MPA NA NGA NGKA NRA NYA NYCA PA RA SA TA VA YA) PALLAWA VOWEL(SIGN(AE E I O U)))
BUHID(LETTER(A BA DA GA HA I KA LA MA NA NGA PA RA SA TA U WA YA) VOWEL(SIGN(I U)))
BUILDING(CONSTRUCTION) BULLET.(OPERATOR) BULLHORN.(WITH(SOUND(WAVES))) BULLSEYE BURRITO BUS.(STOP)
BUST(IN(SILHOUETTE)) BUSTS(IN(SILHOUETTE)) BUTTER BUTTERFLY BYTE(ORDER(MARK))
BYZANTINE(MUSICAL(SYMBOL(AGOGI(ARGI ARGOTERI GORGI GORGOTERI MESI METRIA POLI(ARGI GORGI))
ANATRICHISMA ANTIKENOKYLISMA ANTIKENOMA APESO(EKFONITIKON EXO(NEO)) APLI APODERMA(ARCHAION NEO)
APOSTROFOI(SYNDESMOS(NEO) TELOUS(ICHIMATOS)) APOSTROFOS.(DIPLI NEO) APOTHEMA ARGON ARGOSYNTHETON
ARKTIKO(DI GA KE NI PA VOU ZO) CHAMILI CHAMILON CHOREVMA(ARCHAION NEO) CHROA(KLITON SPATHI ZYGOS)
DASEIA DIARGON DIASTOLI(APLI(MEGALI MIKRI) DIPLI THESEOS) DIESIS(APLI(DYO(DODEKATA))
DIGRAMMOS(EX(DODEKATA)) MONOGRAMMOS(TESSERA(DODEKATA)) TETARTIMORION TRIGRAMMOS(OKTO(DODEKATA))
TRITIMORION) DIFTOGGOS(OU) DIGORGON.(PARESTIGMENON(ARISTERA(ANO KATO) DEXIA)) DIGRAMMA(GG)
DIPLI.(ARCHAION) DYO EKSTREPTON ELAFRON ENARXIS(KAI(FTHORA(VOU))) ENDOFONON EPEGERMA
ETERON(ARGOSYNTHETON PARAKALESMA) EXO(EKFONITIKON) FANEROSIS(DIFONIAS MONOFONIAS TETRAFONIAS)
FHTORA(SKLIRON(CHROMA(VASIS))) FTHORA(ARCHAION.(DEYTEROU(ICHOU)) DIATONIKI(DI KE NANA NI(ANO KATO)
PA ZO) ENARMONIOS(ANTIFONIA) I(YFESIS(TETARTIMORION)) MALAKON(CHROMA(DIFONIAS MONOFONIAS))
NAOS(ICHOS) NENANO SKLIRON(CHROMA(SYNAFI VASIS) DIATONON(DI))) GENIKI(DIESIS YFESIS)
GORGON(ARCHAION NEO(ANO KATO) PARESTIGMENON(ARISTERA DEXIA)) GORGOSYNTHETON GORTHMIKON(N(APLOUN
DIPLOUN)) GRONTHISMATA ICHADIN IMIDIARGON IMIFONON IMIFTHORA IMIFTHORON ISAKIA(TELOUS(ICHIMATOS))
ISON(ARCHAION NEO) KATAVA(TROMIKON) KATAVASMA KATHISTI KENTIMA(ARCHAION NEO(ANO KATO MESO))
KENTIMATA.(ARCHAION NEO(ANO KATO MESO)) KLASMA.(ANO KATO) KONTEVMA.(ALLO) KORONIS KOUFISMA
KRATIMA(ALLO ARCHAION NEO) KRATIMATA KRATIMOKOUFISMA KRATIMOYPORROON KREMASTI KYLISMA
LEIMMA(DYO(CHRONON) ENOS(CHRONOU) IMISEOS(CHRONOU) TESSARON(CHRONON) TRION(CHRONON)) LEMOI LYGISMA
MARTYRIA(ALLI(DEYTEROS(ICHOS) PROTOS(ICHOS)) DEYTEROS(ICHOS) LEGETOS(ICHOS) PLAGIOS(ICHOS
TETARTOS(ICHOS)) PROTOS(ICHOS) PROTOVARYS(ICHOS) TETARTOS(ICHOS LEGETOS(ICHOS)) TRIFONIAS
TRITOS(ICHOS) VARYS(ICHOS)) MIKRON(ISON) NANA OLIGON(ARCHAION NEO) OMALON OXEIA(DIPLI EKFONITIKON
NEO) OXEIAI(ARCHAION) OYRANISMA(ARCHAION NEO) PARAKALESMA(ARCHAION NEO) PARAKLITIKI.(ARCHAION NEO)
PARICHON PELASTON.(NEO) PERISPOMENI PETASMA PETASTI PETASTOKOUFISMA PIASMA(ARCHAION NEO)
PSIFISTOLYGISMA PSIFISTON.(NEO) PSIFISTOPARAKALESMA PSIFISTOSYNAGMA PSILI PSILON RAPISMA REVMA
SAXIMATA SEISMA.(NEO) SIMANSIS(ARSEOS.(DISIMOU TETRASIMOU TRISIMOU) THESEOS.(DISIMOU TETRASIMOU
TRISIMOU)) STAVROS.(APODEXIA) STIGMA STRAGGISMATA SYNAGMA(ARCHAION META(STAVROU) NEO) SYNEVMA SYRMA
SYRMATIKI TELEIA TESSERA TETRAPLI THEMA.(APLOUN) THEMATISMOS(ESO EXO) THES(KAI(APOTHES)) THITA
TINAGMA TRIA TRIGORGON TRIPLI TROMIKOLYGISMA TROMIKON(ALLO ARCHAION NEO) TROMIKOPARAKALESMA
TROMIKOPSIFISTON TROMIKOSYNAGMA VAREIA(DIPLI EKFONITIKON NEO) VAREIAI(ARCHAION) VATHY XIRON(KLASMA)
YFEN(ANO KATO) YFESIS(APLI(DYO(DODEKATA)) DIGRAMMOS(EX(DODEKATA)) MONOGRAMMOS(TESSERA(DODEKATA))
TRIGRAMMOS(OKTO(DODEKATA)) TRITIMORION) YPOKRISIS.(DIPLI) YPORROI YPSILI))) CACTUS CADA(UNA)
CADUCEUS CALENDAR CALL(ME(HAND)) CAMERA.(WITH(FLASH)) CAMPING CAN CANADIAN(SYLLABICS(A AA AAI AAY
AI AIVILIK(B) AN ATHAPASCAN(M S) AY BEAVER(DENE(L R)) BIBLE-CREE(Y) BLACKFOOT(A E I KA KE KI KO NA
NE NI NO O S W WA WE WI WO) C CA CAA CAAI CARRIER(CHA CHE CHEE CHI CHO CHU DEE DENE(GEE) DENTAL(S)
DI DLA DLE DLEE DLI DLO DLU DZA DZE DZEE DZI DZO DZU EE GA GAA GE GEE GHA GHE GHEE GHI GHO GHU GI
GO GU GWA GWU H HEE HI HWA HWE HWEE HWI HWO HWU I INITIAL(Z) JA JE JEE JI JJA JJE JJEE JJI JJO JJU
JO JU JWA KHA KHE KHEE KHI KHO KHU KK KKA KKE KKEE KKI KKO KKU LA LE LEE LHA LHE LHEE LHI LHO LHU
LI LO LU MA ME MEE MI MO MU NA NE NEE NG NI NO NU P PA PE PEE PI PO PU RA RE REE RI RO RU SA SE SEE
SH SHA SHE SHEE SHI SHO SHU SI SO SU THA THE THEE THI THO THU TLA TLE TLEE TLHA TLHE TLHEE TLHI
TLHO TLHU TLI TLO TLU TSA TSE TSEE TSI TSO TSU TTA TTE TTEE TTI TTO TTSA TTSE TTSEE TTSI TTSO TTSU
TTU WA WE WEE WI WO WU YA YE YEE YI YO YU Z ZA ZE ZEE ZI ZO ZU) CE CHI(SIGN) CI CII CO COO CWA CWAA
CWE CWI CWII CWO CWOO E EASTERN(W) EN F FA FAA FAAI FE FI FII FINAL(ACUTE BOTTOM(HALF(RING))
DOUBLE(ACUTE SHORT(VERTICAL(STROKES))) DOWN(TACK) GRAVE MIDDLE(DOT) PLUS RAISED(DOT)
RIGHT(HALF(RING)) RING SHORT(HORIZONTAL(STROKE)) SMALL(RING) TOP(HALF(RING))) FO FOO FULL(STOP)
FWAA GLOTTAL(STOP) HK HYPHEN I II IN K KA KAA KAAI KAY KE KI KII KO KOO KW KWA KWAA KWAY KWE KWI
KWII KWO KWOO L LA LAA LAAI LAY LE LH LHA LHAA LHI LHII LHO LHOO LI LII LO LOO LWA LWAA LWE LWI
LWII LWO LWOO M MA MAA MAAI MAY ME MEDIAL(L R) MH MI MII MO MOO MOOSE-CREE(SK) MWA MWAA MWE MWI
MWII MWO MWOO N N-CREE(THE THI THII) NA NAA NAAI NASKAPI(CWAA KWAA MWAA NWAA S-W SCWA SKW SKWA SPWA
STWA SWAA TWAA WAA WOO YWAA) NATTILIK(HA HAA HI HII HO HOO SHRA SHRAA SHRI SHRII SHRO SHROO) NAY NE
NG NGA NGAA NGAAI NGAI NGI NGII NGO NGOO NH NI NII NNG NNGA NNGAA NNGI NNGII NNGO NNGOO NO NOO NOY
NUNAVIK(H HA HAA HE HI HII HO HOO) NUNAVUT(H) NWA NWAA NWE NWI NWII NWO NWOO O OJIBWAY(C K M N NWI
NWII NWO NWOO P S SH T) ON OO OY P PA PAA PAAI PAY PE PI PII PO POO POY PWA PWAA PWE PWI PWII PWO
PWOO PWOY Q QA QAA QAAI QAI QI QII QO QOO R R-CREE(RE RWE) RA RAA RAAI RAY RE RI RII RO ROO RWA
RWAA RWEE RWI RWII RWO RWOO S SA SAA SAAI SAY SAYISI(HA HE HI HO HOO JI JU JUU M SHA SHE SHI SHO
SHOO SHWE TH YI) SE SH SHA SHAA SHAY SHE SHI SHII SHO SHOO SHOY SHWA SHWAA SHWE SHWI SHWII SHWO
SHWOO SHWOY SI SII SO SOO SOUTH-SLAVEY(KAH KEH KIH KOH) SOY SPA SPE SPI SPO SW SWA SWAA SWE SWI
SWII SWO SWOO T TA TAA TAAI TAY TE TH TH-CREE(TH THA THAA THE THI THII THO THOO) THA THAA THE THI
THII THO THOO THWA THWAA THWE TI TII TLHA TLHE TLHI TLHO TLHOO TLHWE TO TOO TTA TTE TTH TTHA TTHAA
TTHE TTHI TTHO TTHOO TTHWE TTI TTO TWA TWAA TWE TWI TWII TWO TWOO TYA TYE TYI TYO WA WAA WAY WE
WEST-CREE(CWA CWAA CWE CWI CWII CWO CWOO FWAA KWA KWAA KWE KWI KWII KWO KWOO L LA LAA LE LO LOO LWA
LWAA LWE LWI LWII LWO LWOO M MWA MWAA MWE MWI MWII MWO MWOO NWA NWAA NWE P PWA PWAA PWE PWI PWII
PWO PWOO R RA RE RI RO RWAA SHWA SHWAA SHWE SHWI SHWII SHWO SHWOO SWA SWAA SWE SWI SWII SWO SWOO
THWAA TWA TWAA TWE TWI TWII TWO TWOO WA WAA WE WI WII WO WOO Y YWA YWAA YWE YWI YWII YWO YWOO)
WESTERN(W) WI WII WO WOO WOODS-CREE(FINAL(TH) TH THA THE THI THO THWA THWAA THWEE THWI THWII THWO
THWOO) Y Y-CREE(COO KOO LOO MOO NOO OO POO PWAA SOO TOO W YOO) YA YAA YAAI YAY YE YI YII YO YOO YOY
YWA YWAA YWE YWI YWII YWO YWOO)) CANCEL.(CHARACTER TAG) CANCELLATION(X) CANCER CANDLE CANDY
CANNED(FOOD) CANOE CAPITULUM CAPRICORN CAR(SLIDING) CARD(FILE(BOX) INDEX.(DIVIDERS)) CARE(OF)
CARET.(INSERTION(POINT)) CARIAN(LETTER(A A2 B C-18 C-39 D D2 E E2 G G2 I II K K2 L LD LD2 M MB MB2
MB3 MB4 N ND NG NN O P P2 Q R RR S SH SH2 SS ST ST2 T TT TT2 U UU UUU UUU2 UUU3 UUUU X)) CARON
CAROUSEL(HORSE) CARP(STREAMER) CARPENTRY(SAW) CARRIAGE(RETURN) CARROT CASTLE
CAT.(FACE.(WITH(TEARS(OF(JOY)) WRY(SMILE)))) CAUCASIAN(ALBANIAN(CITATION(MARK) LETTER(ALT AOR BET
CAR CAYN CHA CHAT CHI CHOY CYAW CYAY DAT DYAN DZAY DZYAY EB EYN FAM GHEYS GIM HEYT INYA IRB IWN
JAYN JHOX KAR KIW LAN LYIT MAQ NOWC ON PEN PIWR QAR QAY RAT SEYK SHA SHAK SHOY TAS TIWR TYAY VEYZ
XEYN YAYD YOWD ZARL ZHA ZHIL))) CAUTION(SIGN) CCH CEDI(SIGN) CEDILLA CELTIC(CROSS) CENT(SIGN)
CENTRE(LINE(SYMBOL)) CENTRELINE(LOW(LINE) OVERLINE) CERES CGJ CHAINS CHAIR CHAKMA(AU(MARK) DANDA
DIGIT(EIGHT FIVE FOUR NINE ONE SEVEN SIX THREE TWO ZERO) DOUBLE(DANDA) LETTER(AA BAA BHAA CAA CHAA
DAA DDAA DDHAA DHAA E GAA GHAA HAA I JAA JHAA KAA KHAA LAA LHAA MAA NAA NGAA NNAA NYAA PAA PHAA RAA
SAA TAA THAA TTAA TTHAA U VAA WAA YAA YYAA) MAAYYAA O(MARK) QUESTION(MARK) SECTION(MARK)
SIGN(ANUSVARA CANDRABINDU VISARGA) VIRAMA VOWEL(SIGN(A AA AI AU E EI I II O OI U UU)))
CHAM(CONSONANT(SIGN(FINAL(H M NG) LA RA WA YA)) DIGIT(EIGHT FIVE FOUR NINE ONE SEVEN SIX THREE TWO
ZERO) LETTER(A AI BA BBA BHA CHA CHHA DA DDA DHA E FINAL(CH G K L N NG P R SS T Y) GA GHA HA I JA
JHA KA KHA LA MA MUE NA NGA NGUE NHA NHJA NHUE NUE O PA PHA PPA RA SA SSA TA THA U VA YA)
PUNCTUATION(DANDA DOUBLE(DANDA) SPIRAL TRIPLE(DANDA)) VOWEL(SIGN(AA AI AU EI I II O OE U UE)))
CHARACTER(TABULATION.(SET WITH(JUSTIFICATION)) TIE) CHART(WITH(DOWNWARDS(TREND)
UPWARDS(TREND.(AND(YEN(SIGN)))))) CHECK(MARK) CHECKER(BOARD.(FILL)) CHEERING(MEGAPHONE)
CHEESE(WEDGE) CHEQUERED(FLAG) CHEROKEE(LETTER(A DA DE DI DLA DO DU DV E GA GE GI GO GU GV HA HE HI
HNA HO HU HV I KA LA LE LI LO LU LV MA ME MI MO MU MV NA NAH NE NI NO NU NV O QUA QUE QUI QUO QUU
QUV S SA SE SI SO SU SV TA TE TI TLA TLE TLI TLO TLU TLV TSA TSE TSI TSO TSU TSV U V WA WE WI WO WU
WV YA YE YI YO YU YV) SMALL(LETTER(A DA DE DI DLA DO DU DV E GA GE GI GO GU GV HA HE HI HNA HO HU
HV I KA LA LE LI LO LU LV MA ME MI MO MU MV NA NAH NE NI NO NU NV O QUA QUE QUI QUO QUU QUV S SA SE
SI SO SU SV TA TE TI TLA TLE TLI TLO TLU TLV TSA TSE TSI TSO TSU TSV U V WA WE WI WO WU WV YA YE YI
YO YU YV))) CHERRIES CHERRY(BLOSSOM) CHESTNUT CHI(RHO) CHICKEN CHILD CHILDREN(CROSSING) CHIPMUNK
CHIRON CHOCOLATE(BAR) CHOPSTICKS CHORASMIAN(LETTER(ALEPH AYIN BETH CURLED(WAW) DALETH GIMEL HE HETH
KAPH LAMEDH MEM NUN PE RESH SAMEKH SHIN SMALL(ALEPH) TAW WAW YODH ZAYIN) NUMBER(FOUR ONE.(HUNDRED)
TEN THREE TWENTY TWO)) CHRISTMAS(TREE) CHURCH CINEMA
CIRCLE(DIVIDED(BY(HORIZONTAL(BAR(AND(TOP(HALF(DIVIDED(BY(VERTICAL(BAR))))))))))
WITH(ALL(BUT(UPPER(LEFT(QUADRANT(BLACK))))) HORIZONTAL(BAR) LEFT(HALF(BLACK)) LOWER(HALF(BLACK))
RIGHT(HALF(BLACK)) SMALL(CIRCLE(TO(THE(RIGHT)))) SUPERIMPOSED(X)
TWO(HORIZONTAL(STROKES(TO(THE(RIGHT))))) UPPER(HALF(BLACK) RIGHT(QUADRANT(BLACK))) VERTICAL(FILL)))
CIRCLED(ANTICLOCKWISE(ARROW) ANTICLOCKWISE-ROTATED(DIVISION(SIGN)) ASTERISK(OPERATOR) BOLD(X)
BULLET C(WITH(OVERLAID(BACKSLASH))) CC CD CROSS(FORMEE.(WITH(FOUR(DOTS) TWO(DOTS))) POMMEE)
CROSSING(LANES) DASH DIGIT(EIGHT FIVE FOUR NINE ONE SEVEN SIX THREE TWO ZERO) DIVISION(SIGN SLASH)
DOLLAR(SIGN(WITH(OVERLAID(BACKSLASH)))) DOT(OPERATOR) EQUALS GREATER-THAN HANGUL(CHIEUCH.(A)
CIEUC.(A) HIEUH.(A) IEUNG.(A U) KHIEUKH.(A) KIYEOK.(A) MIEUM.(A) NIEUN.(A) PHIEUPH.(A) PIEUP.(A)
RIEUL.(A) SIOS.(A) THIEUTH.(A) TIKEUT.(A)) HEAVY(WHITE(RIGHTWARDS(ARROW)))
HORIZONTAL(BAR(WITH(NOTCH))) HUMAN(FIGURE) IDEOGRAPH(ACCEPT ADVANTAGE ALLIANCE ATTENTION CENTRE
CONGRATULATION COPY CORRECT EARTH EIGHT ENTERPRISE EXCELLENT FEMALE FINANCIAL FIRE FIVE FOUR HAVE
HIGH ITEM KINDERGARTEN KOTO LABOR LEFT LOW MALE MEDICINE METAL MOON NAME NIGHT NINE ONE PRINT
QUESTION RELIGION RESOURCE REST RIGHT SCHOOL SECRET SEVEN SIX SOCIETY SPECIAL STOCK STUDY SUITABLE
SUN SUPERVISE TEN THREE TWO WATER WOOD) INFORMATION(SOURCE) ITALIC(LATIN(CAPITAL(LETTER(C R))))
KATAKANA(A E HA HE HI HO HU I KA KE KI KO KU MA ME MI MO MU NA NE NI NO NU O RA RE RI RO RU SA SE
SI SO SU TA TE TI TO TU U WA WE WI WO YA YO YU) KOREAN(CHARACTER(CHAMKO JUEUI))
LATIN(CAPITAL(LETTER(A B C D E F G H I J K L M N O P Q R S T U V W X Y Z)) SMALL(LETTER(A B C D E F
G H I J K L M N O P Q R S T U V W X Y Z))) LESS-THAN MINUS
MULTIPLICATION(SIGN(WITH(CIRCUMFLEX(ACCENT)))) NUMBER(EIGHTEEN EIGHTY(ON(BLACK(SQUARE))) ELEVEN
FIFTEEN FIFTY.(ON(BLACK(SQUARE))) FORTY.(EIGHT FIVE FOUR NINE ON(BLACK(SQUARE)) ONE SEVEN SIX THREE
TWO) FOURTEEN NINETEEN SEVENTEEN SEVENTY(ON(BLACK(SQUARE))) SIXTEEN SIXTY(ON(BLACK(SQUARE)))
TEN.(ON(BLACK(SQUARE))) THIRTEEN THIRTY.(EIGHT FIVE FOUR NINE ON(BLACK(SQUARE)) ONE SEVEN SIX THREE
TWO) TWELVE TWENTY.(EIGHT FIVE FOUR NINE ON(BLACK(SQUARE)) ONE SEVEN SIX THREE TWO))
OPEN(CENTRE(EIGHT(POINTED(STAR)))) PARALLEL PERPENDICULAR PLUS POSTAL(MARK) REVERSE(SOLIDUS)
RING(OPERATOR) SQUARE TIMES TRIANGLE.(DOWN) VERTICAL(BAR) WHITE(BULLET STAR) WZ X
ZERO(WITH(SLASH))) CIRCULATION(FUNCTION) CIRCUMFLEX(ACCENT) CIRCUS(TENT) CITYSCAPE.(AT(DUSK))
CJK(RADICAL(BAMBOO BLUE BOLT(OF(CLOTH)) BONE BOX BRUSH(ONE TWO) C-SIMPLIFIED(BIRD CART DRAGON EAT
EVEN FISH FLY FROG GATE GOLD HORSE LEAF LONG SALT SEE SHELL SILK SPEECH TANNED(LEATHER) TOOTH
TURTLE WIND) CHOKE CITY CIVILIAN CLIFF CLOTHES COW DEATH DIVINATION DOG EAT(ONE THREE TWO) EWE EYE
FIRE FOOT GHOST GRASS(ONE THREE TWO) HAND HEAD HEART(ONE TWO) HORN J-SIMPLIFIED(DRAGON EVEN TOOTH
TURTLE) JADE KNIFE(ONE TWO) LAME(FOUR ONE THREE TWO) LONG(ONE TWO) MEAT MESH MOON MORTAR MOTHER
MOUND(ONE TWO) NET(FOUR ONE THREE TWO) OLD PAW(ONE TWO) PERSON RAIN RAM RAP REPEAT SEAL SECOND(ONE
THREE TWO) SHEEP SILK SIMPLIFIED(HALF(TREE(TRUNK)) HORN WALK WHEAT YELLOW) SMALL(ONE TWO) SNAKE
SNOUT(ONE TWO) SPIRIT(ONE TWO) SUN TABLE THREAD TIGER TURTLE WALK(ONE TWO) WATER(ONE TWO) WEST(ONE
TWO)) STROKE(BXG D H HG HP HPWG HXWG HZ HZG HZT HZW HZWG HZZ HZZP HZZZ HZZZG N P PD PG PZ Q S SG SP
ST SW SWG SWZ SZ SZWG SZZ T TN WG XG)) CLAMSHELL(MOBILE(PHONE)) CLAPPER(BOARD)
CLAPPING(HANDS(SIGN)) CLASSICAL(BUILDING) CLEAR(SCREEN(SYMBOL)) CLINKING(BEER(MUGS) GLASSES)
CLIPBOARD CLOCK(FACE(EIGHT(OCLOCK) EIGHT-THIRTY ELEVEN(OCLOCK) ELEVEN-THIRTY FIVE(OCLOCK)
FIVE-THIRTY FOUR(OCLOCK) FOUR-THIRTY NINE(OCLOCK) NINE-THIRTY ONE(OCLOCK) ONE-THIRTY SEVEN(OCLOCK)
SEVEN-THIRTY SIX(OCLOCK) SIX-THIRTY TEN(OCLOCK) TEN-THIRTY THREE(OCLOCK) THREE-THIRTY
TWELVE(OCLOCK) TWELVE-THIRTY TWO(OCLOCK) TWO-THIRTY)) CLOCKWISE(CLOSED(CIRCLE(ARROW))
CONTOUR(INTEGRAL) DOWNWARDS(AND(UPWARDS(OPEN(CIRCLE(ARROWS))))) GAPPED(CIRCLE(ARROW)) INTEGRAL
OPEN(CIRCLE(ARROW)) RIGHT(AND(LEFT(SEMICIRCLE(ARROWS))))
RIGHTWARDS(AND(LEFTWARDS(OPEN(CIRCLE(ARROWS.(WITH(CIRCLED(ONE(OVERLAY)))))))))
TOP(SEMICIRCLE(ARROW)) TRIANGLE-HEADED(OPEN(CIRCLE(ARROW)))) CLOSE(UP) CLOSED(BOOK
INTERSECTION(WITH(SERIFS)) LOCK(WITH(KEY)) MAILBOX(WITH(LOWERED(FLAG) RAISED(FLAG)))
SUBSET.(OR(EQUAL(TO))) SUPERSET.(OR(EQUAL(TO))) UMBRELLA UNION(WITH(SERIFS.(AND(SMASH(PRODUCT))))))
CLOUD.(WITH(LIGHTNING RAIN SNOW TORNADO)) CLOWN(FACE) COAT COCKROACH COCKTAIL(GLASS) COCONUT COFFIN
COIN COLLISION(SYMBOL) COLON.(EQUALS SIGN) COMBINING(ACUTE(ACCENT.(BELOW) TONE(MARK))
ACUTE-GRAVE-ACUTE ACUTE-MACRON ALMOST(EQUAL(TO(ABOVE BELOW))) ANNUITY(SYMBOL)
ANTICLOCKWISE(ARROW(ABOVE) RING(OVERLAY)) ASTERISK(ABOVE BELOW) BINDU(BELOW) BREVE.(BELOW)
BREVE-MACRON BRIDGE(ABOVE BELOW) CANDRABINDU CARON.(BELOW) CEDILLA CIRCUMFLEX(ACCENT.(BELOW))
CLOCKWISE(ARROW(ABOVE) RING(OVERLAY)) COMMA(ABOVE.(RIGHT) BELOW) CONJOINING(MACRON.(BELOW))
CYRILLIC(DASIA(PNEUMATA) HUNDRED(MILLIONS(SIGN) THOUSANDS(SIGN)) KAVYKA LETTER(A BE BIG(YUS) CHE DE
DJERV EF EL EM EN ER ES ES-TE FITA GHE HA HARD(SIGN) I IE IOTIFIED(A BIG(YUS) E) KA LITTLE(YUS)
MONOGRAPH(UK) O OMEGA PE SHA SHCHA SOFT(SIGN) TE TSE U UKRAINIAN(IE) VE YAT YERU YI YU ZE ZHE)
MILLIONS(SIGN) PALATALIZATION PAYEROK POKRYTIE PSILI(PNEUMATA) TEN(MILLIONS(SIGN))
THOUSAND(MILLIONS(SIGN)) TITLO.(LEFT(HALF) RIGHT(HALF)) VZMET) DELETION(MARK)
DEVANAGARI(DIGIT(EIGHT FIVE FOUR NINE ONE SEVEN SIX THREE TWO ZERO) LETTER(A KA NA PA RA U VI)
SIGN(AVAGRAHA)) DIAERESIS.(BELOW) DIAERESIS-RING DOT(ABOVE.(LEFT RIGHT) BELOW.(LEFT))
DOTTED(ACUTE(ACCENT) GRAVE(ACCENT)) DOUBLE(ACUTE(ACCENT) BREVE.(BELOW) CIRCUMFLEX(ABOVE)
GRAVE(ACCENT) INVERTED(BREVE.(BELOW)) LOW(LINE) MACRON.(BELOW) OPEN(MARK(BELOW)) OVERLINE
PARENTHESES(ABOVE) PLUS(SIGN(ABOVE BELOW)) RIGHTWARDS(ARROW(BELOW)) RING(BELOW) TILDE.(LEFT(HALF)
RIGHT(HALF)) VERTICAL(LINE(ABOVE BELOW) STROKE(OVERLAY))) DOUBLED(CIRCUMFLEX(ACCENT))
DOWN(TACK(BELOW)) DOWNWARDS(ARROW) ENCLOSING(CIRCLE.(BACKSLASH) DIAMOND KEYCAP SCREEN SQUARE
UPWARD(POINTING(TRIANGLE))) EQUALS(SIGN(BELOW)) FERMATA FOUR(DOTS(ABOVE)) GLAGOLITIC(LETTER(AZU
BIG(YUS) BUKY CHRIVI DJERVI DOBRO FITA FRITU GLAGOLI HERU I INITIAL(IZHE) IOTATED(BIG(YUS)
SMALL(YUS)) IZHE KAKO LJUDIJE MYSLITE NASHI ONU POKOJI RITSI SHA SHTA SLOVO SMALL(YUS) TSI TVRIDO
UKU VEDE YATI YERI YERU YESTU YO YU ZEMLJA ZHIVETE)) GRANTHA(DIGIT(FIVE FOUR ONE SIX THREE TWO
ZERO) LETTER(A KA NA PA VI)) GRAPHEME(JOINER) GRAVE(ACCENT.(BELOW) TONE(MARK)) GRAVE-ACUTE-GRAVE
GRAVE-MACRON GREEK(DIALYTIKA(TONOS) KORONIS MUSICAL(PENTASEME TETRASEME TRISEME) PERISPOMENI
YPOGEGRAMMENI) HOMOTHETIC(ABOVE) HOOK(ABOVE) HORN INFINITY INVERTED(BREVE.(BELOW) BRIDGE(BELOW)
DOUBLE(ARCH(ABOVE BELOW))) IS(BELOW) KATAKANA-HIRAGANA(SEMI-VOICED(SOUND(MARK))
VOICED(SOUND(MARK))) KAVYKA(ABOVE(LEFT RIGHT)) LATIN(LETTER(SMALL(CAPITAL(G L M N R)))
SMALL(LETTER(A.(WITH(DIAERESIS)) AE ALPHA AO AV B BETA C.(CEDILLA) D E ESH ETH F
FLATTENED(OPEN(A(ABOVE))) G H I INSULAR(D G R T) K L.(WITH(DOUBLE(MIDDLE(TILDE)))) LONG(S) M N
O.(WITH(DIAERESIS LIGHT(CENTRALIZATION(STROKE)))) P R.(BELOW ROTUNDA) S SCHWA T TURNED(W(BELOW))
U.(WITH(DIAERESIS LIGHT(CENTRALIZATION(STROKE)))) V W.(BELOW) X Z))) LEFT(ANGLE(ABOVE BELOW)
ARROW(ABOVE BELOW) ARROWHEAD(ABOVE BELOW) HALF(RING(ABOVE BELOW)) HARPOON(ABOVE)
PARENTHESIS(ABOVE(LEFT) BELOW(LEFT)) RIGHT(ARROW(ABOVE BELOW)) TACK(BELOW))
LEFTWARDS(ARROW(OVERLAY) HARPOON(WITH(BARB(DOWNWARDS)))) LIGATURE(LEFT(HALF.(BELOW))
RIGHT(HALF.(BELOW))) LIGHT(CENTRALIZATION(STROKE(BELOW))) LONG(DOUBLE(SOLIDUS(OVERLAY))
SOLIDUS(OVERLAY) STROKE(OVERLAY) VERTICAL(LINE(OVERLAY))) LOW(LINE) MACRON.(BELOW
LEFT(HALF.(BELOW)) RIGHT(HALF.(BELOW))) MACRON-ACUTE MACRON-BREVE MACRON-GRAVE MINUS(SIGN(BELOW))
NOT(TILDE(ABOVE)) NUMBER(SIGN(ABOVE)) OGONEK.(ABOVE) OLD(PERMIC(LETTER(AN DOI NENOE SII ZATA)))
OPEN(MARK(BELOW)) OVERLINE PALATALIZED(HOOK(BELOW)) PARENTHESES(ABOVE BELOW OVERLAY)
PLUS(SIGN(ABOVE BELOW)) RETROFLEX(HOOK(BELOW)) REVERSE(SOLIDUS(OVERLAY)) REVERSED(COMMA(ABOVE))
RIGHT(ARROW(ABOVE BELOW) ARROWHEAD(ABOVE AND(DOWN(ARROWHEAD(BELOW)) UP(ARROWHEAD(BELOW))) BELOW)
HALF(RING(ABOVE BELOW)) HARPOON(ABOVE) PARENTHESIS(ABOVE(RIGHT) BELOW(RIGHT)) TACK(BELOW))
RIGHTWARDS(HARPOON(WITH(BARB(DOWNWARDS)))) RING(ABOVE BELOW OVERLAY) SEAGULL(BELOW)
SHORT(SOLIDUS(OVERLAY) STROKE(OVERLAY) VERTICAL(LINE(OVERLAY))) SNAKE(BELOW) SQUARE(BELOW
BRACKETS(ABOVE)) STRONG(CENTRALIZATION(STROKE(BELOW))) SUSPENSION(MARK) THREE(DOTS(ABOVE))
TILDE.(BELOW LEFT(HALF(BELOW)) OVERLAY RIGHT(HALF(BELOW))) TRIPLE(ACUTE(ACCENT) DOT UNDERDOT)
TURNED(COMMA(ABOVE)) UP(TACK(ABOVE BELOW)) UPWARDS(ARROW(BELOW)) UR(ABOVE) US(ABOVE)
VERTICAL(LINE(ABOVE BELOW) TILDE) WIDE(BRIDGE(ABOVE) INVERTED(BRIDGE(BELOW))) WIGGLY(LINE(BELOW))
X(ABOVE BELOW) X-X(BELOW) ZIGZAG(ABOVE BELOW)) COMET COMMA COMMERCIAL(AT MINUS(SIGN)) COMPASS
COMPLEMENT COMPOSITION(SYMBOL) COMPRESSION CONFETTI(BALL) CONFOUNDED(FACE) CONFUSED(FACE)
CONGRUENT(WITH(DOT(ABOVE))) CONICAL(TAPER) CONJUNCTION CONSTRUCTION(SIGN WORKER) CONTAINS(AS(MEMBER
NORMAL(SUBGROUP.(OR(EQUAL(TO))))) WITH(LONG(HORIZONTAL(STROKE)) OVERBAR
VERTICAL(BAR(AT(END(OF(HORIZONTAL(STROKE)))))))) CONTINUOUS(UNDERLINE(SYMBOL)) CONTOUR(INTEGRAL)
CONTROL(KNOBS SEQUENCE(INTRODUCER)) CONVENIENCE(STORE) COOKED(RICE) COOKIE COOKING
COPTIC(CAPITAL(LETTER(AKHMIMIC(KHEI) ALFA BOHAIRIC(KHEI) CROSSED(SHEI) CRYPTOGRAMMIC(EIE GANGIA NI
SHEI) DALDA DEI DIALECT-P(ALEF HORI KAPA NI) EIE FEI FI GAMMA GANGIA HATE HORI IAUDA KAPA KHEI KHI
KSI L-SHAPED(HA) LAULA MI NI O OLD(COPTIC(AIN DJA ESH GANGIA HA HAT HEI HORI OOU SHEI SHIMA)
NUBIAN(NGI NYI SHIMA WAU)) OOU PI PSI RO SAMPI SHEI SHIMA SIMA SOU TAU THETHE UA VIDA ZATA))
COMBINING(NI(ABOVE) SPIRITUS(ASPER LENIS)) EPACT(DIGIT(EIGHT FIVE FOUR NINE ONE SEVEN SIX THREE
TWO) NUMBER(EIGHT(HUNDRED) EIGHTY FIFTY FIVE(HUNDRED) FORTY FOUR(HUNDRED) NINE(HUNDRED) NINETY
ONE(HUNDRED) SEVEN(HUNDRED) SEVENTY SIX(HUNDRED) SIXTY TEN THIRTY THREE(HUNDRED) TWENTY
TWO(HUNDRED)) THOUSANDS(MARK)) FRACTION(ONE(HALF)) FULL(STOP) MORPHOLOGICAL(DIVIDER)
OLD(NUBIAN(DIRECT(QUESTION(MARK)) FULL(STOP) INDIRECT(QUESTION(MARK)) VERSE(DIVIDER)))
SMALL(LETTER(AKHMIMIC(KHEI) ALFA BOHAIRIC(KHEI) CROSSED(SHEI) CRYPTOGRAMMIC(EIE GANGIA NI SHEI)
DALDA DEI DIALECT-P(ALEF HORI KAPA NI) EIE FEI FI GAMMA GANGIA HATE HORI IAUDA KAPA KHEI KHI KSI
L-SHAPED(HA) LAULA MI NI O OLD(COPTIC(AIN DJA ESH GANGIA HA HAT HEI HORI OOU SHEI SHIMA) NUBIAN(NGI
NYI SHIMA WAU)) OOU PI PSI RO SAMPI SHEI SHIMA SIMA SOU TAU THETHE UA VIDA ZATA)) SYMBOL(KAI
KHI(RO) MI(RO) PI(RO) SHIMA(SIMA) STAUROS TAU(RO))) COPYLEFT(SYMBOL) COPYRIGHT(SIGN) CORAL
CORNISH(VERSE(DIVIDER)) CORRESPONDS(TO) COUCH(AND(LAMP)) COUNTERBORE COUNTERSINK
COUNTING(ROD(TENS(DIGIT(EIGHT FIVE FOUR NINE ONE SEVEN SIX THREE TWO)) UNIT(DIGIT(EIGHT FIVE FOUR
NINE ONE SEVEN SIX THREE TWO)))) COUPLE(WITH(HEART)) COW.(FACE) CR CRAB CREDIT(CARD) CRESCENT(MOON)
CRICKET.(BAT(AND(BALL))) CROCODILE CROISSANT CROSS(MARK OF(JERUSALEM LORRAINE)
PATTY(WITH(LEFT(CROSSBAR) RIGHT(CROSSBAR))) POMMEE.(WITH(HALF-CIRCLE(BELOW)))) CROSSED(FLAGS
NEGATIVE(SQUARED(LATIN(CAPITAL(LETTER(P))))) SWORDS) CROSSING(LANES) CROWN CRUTCH CRUZEIRO(SIGN)
CRYING(CAT(FACE) FACE) CRYSTAL(BALL) CSI CUBE(ROOT) CUCUMBER CUNEIFORM(NUMERIC(SIGN(EIGHT(ASH DISH
GESH2 SHAR2 U.(VARIANT(FORM)) VARIANT(FORM(USSU USSU3))) ELAMITE(FIFTY FORTY ONE(THIRD)
TWO(THIRDS)) FIVE(ASH.(TENU) BAN2.(VARIANT(FORM)) BURU DISH GESH2 GESHU SHAR2 SHARU SIXTHS(DISH)
U.(VARIANT(FORM))) FOUR(ASH.(TENU) BAN2.(VARIANT(FORM)) BURU DISH GESH2 GESHU SHAR2 SHARU
U.(VARIANT(FORM)) VARIANT(FORM(LIMMU.(A B) LIMMU4))) NIGIDAESH NIGIDAMIN NINE(ASH DISH GESH2 SHAR2
U.(VARIANT(FORM)) VARIANT(FORM(ILIMMU.(A) ILIMMU3 ILIMMU4))) OLD(ASSYRIAN(ONE(QUARTER SIXTH)))
ONE(BAN2 BURU EIGHTH(ASH) ESHE3 GESH2 GESHU HALF(GUR) QUARTER(ASH GUR) SHARU THIRD(DISH
VARIANT(FORM(A)))) SEVEN(ASH DISH GESH2 SHAR2 U.(VARIANT(FORM)) VARIANT(FORM(IMIN(A B) IMIN3)))
SHAR2(TIMES(GAL(PLUS(DISH MIN)))) SIX(ASH.(TENU) DISH GESH2 SHAR2 U.(VARIANT(FORM))
VARIANT(FORM(ASH9))) THREE(ASH.(TENU) BAN2 BURU.(VARIANT(FORM)) DISH GESH2 GESHU
SHAR2.(VARIANT(FORM)) SHARU.(VARIANT(FORM)) VARIANT(FORM(ESH16 ESH21))) TWO(ASH.(TENU) BAN2 BURU
ESHE3 GESH2 GESHU SHAR2 SHARU THIRDS(DISH VARIANT(FORM(A)))))) PUNCTUATION(SIGN(DIAGONAL(COLON
QUADCOLON TRICOLON) OLD(ASSYRIAN(WORD(DIVIDER))) VERTICAL(COLON))) SIGN(A.(TIMES(A BAD GAN2(TENU)
HA IGI LAGAR(GUNU) MUSH SAG)) A2 AB.(GUNU TIMES(ASH2 DUN3(GUNU) GAL GAN2(TENU) HA IGI(GUNU) IMIN
LAGAB NUN.(TENU) SHESH SHU2 U(PLUS(U(PLUS(U)))))) AB2.(TIMES(A BALAG GAN2(TENU) ME(PLUS(EN)) SHA3
TAK4)) AD.(TIMES(ESH2)) AK.(TIMES(ERIN2 SHITA(PLUS(GISH)))) AL.(TIMES(AL DIM2 GISH HA KAD3 KI SHE
USH)) ALAN ALEPH AMAR.(TIMES(KUG SHE)) AN.(OVER(AN) PLUS(NAGA(OPPOSING(AN(PLUS(NAGA))) SQUARED))
THREE(TIMES)) ANSHE APIN ARAD.(TIMES(KUR)) ARKAB ASAL2 ASH.(KABA(TENU)
OVER(ASH(OVER(ASH.(CROSSING(ASH(OVER(ASH(OVER(ASH))))))) TUG2(OVER(TUG2(TUG2(OVER(TUG2(PAP))))))))
ZIDA(TENU)) ASH2 ASHGAB BA BAD.(TIMES(DISH(TENU))) BAG3 BAHAR2.(TIMES(AB2 NI ZA)) BAL.(OVER(BAL))
BALAG BAR BARA2 BI.(TIMES(A GAR IGI(GUNU))) BU.(CROSSING(BU) OVER(BU(AB TIMES(NA2) UN)))
BULUG.(OVER(BULUG)) BUR BUR2 DA.(TIMES(TAK4)) DAG.(KISIM5(TIMES(A(PLUS(MASH)) AMAR BALAG BI
GA.(PLUS(MASH)) GI GIR2 GUD HA IR.(PLUS(LU)) KAK LA LU.(PLUS(MASH2)) LUM NE PAP(PLUS(PAP)) SI TAK4
U2(PLUS(GIR2 MASH)) USH)) TIMES(KUR)) DAG3 DAM DAR DARA3 DARA4 DI DIB DIM.(TIMES(IGI SHE U(U(U))))
DIM2.(TIMES(UD)) DIN.(KASKAL(U(GUNU(DISH)))) DISH.(PLUS(SHU)) DU.(GUNU OVER(DU) SHESHIG)
DUB.(TIMES(ESH2 SHE)) DUB2 DUG.(TIMES(ANSHE ASH.(AT(LEFT)) DIN DUN ERIN2 GA GI GIR2(GUNU) GISH HA
HI IGI(GUNU) KASKAL KUR KUSHU2.(PLUS(KASKAL)) LAK-020 LAM.(TIMES(KUR)) LUH(PLUS(GISH)) MASH MES MI
NI PI SHE SI(GUNU))) DUGUD DUH DUN DUN3.(GUNU.(GUNU)) DUN4 DUR2 E.(OVER(E(NUN(OVER(NUN))))
TIMES(PAP)) E2.(TIMES(A(PLUS(HA(PLUS(DA)))) GAR KUR MI PAP SAL SHE U)) EDIN EGIR EL
EN.(CROSSING(EN) OPPOSING(EN) SQUARED TIMES(GAN2.(TENU) ME)) EREN ERIN2.(X) ESH2.(CROSSING(ESH2))
EZEN.(SHESHIG(TIMES(ASH HI IGI(GUNU) LA LAL ME MES SU)) TIMES(A.(PLUS(LAL.(TIMES(LAL)))) AN BAD
DUN3(GUNU.(GUNU)) GUD HA.(GUNU) IGI(GUNU) KASKAL.(SQUARED) KU3 LA LAL(TIMES(LAL)) LI LU SHE SU U2
UD)) GA.(GUNU) GA2.(OVER(GA2) TIMES(A(PLUS(DA(PLUS(HA)) HA IGI)) AB2(TENU(PLUS(TAB)))
AN.(PLUS(KAK(PLUS(A)))) ASH ASH2.(PLUS(GAL)) BAD BAHAR2 BAR(PLUS(RA)) BUR.(PLUS(RA)) DA DI DIM(GUNU
TIMES(SHE)) DUB DUG(TIMES(IGI(GUNU) KASKAL)) EL.(PLUS(LA)) EN.(TIMES(GAN2(TENU))) EREN GA
GAN2(TENU) GAR.(PLUS(DI NE)) GI GI4.(PLUS(A)) GIR2(PLUS(SU)) HA(PLUS(A LU(PLUS(ESH2))))
HAL.(PLUS(LA)) HI(PLUS(LI)) HUB2 IGI(GUNU) ISH(PLUS(HU(PLUS(ASH)))) KAK KASKAL KID.(PLUS(LAL))
KU3(PLUS(AN)) KUSHU2(PLUS(KASKAL)) LA LAM.(TIMES(KUR)) LUH ME(PLUS(EN)) MI MUSH NE.(PLUS(E2 GI))
NUN.(OVER(NUN)) PA SAL SAR SHE.(PLUS(TUR)) SHID SHIM SUM TAK4 U UD.(PLUS(DU)) ZIZ2))
GABA.(CROSSING(GABA) ROTATED(NINETY(DEGREES))) GAD.(OVER(GAD(GAR(OVER(GAR)))))
GAL.(GAD(OVER(GAD(GAR(OVER(GAR)))))) GALAM GAM GAN GAN2.(CROSSING(GAN2) OVER(GAN2) TENU) GAR GAR3
GASHAN GE22 GESHTIN.(TIMES(KUR U)) GI.(CROSSING(GI) TIMES(E U)) GI4.(CROSSING(GI4) OVER(GI4)) GIDIM
GIG GIR2.(GUNU) GIR3.(TIMES(A(PLUS(IGI)) GAN2(TENU) IGI LU(PLUS(IGI)) PA)) GISAL
GISH.(CROSSING(GISH) TENU TIMES(BAD GISH(CROSSING(GISH)) TAK4)) GU.(CROSSING(GU)) GU2.(GUNU
TIMES(IGI(GUNU) KAK.(TIMES(IGI(GUNU))) NUN SAL(PLUS(TUG2)))) GUD.(OVER(GUD(LUGAL))
PLUS(GISH(TIMES(TAK4))) TIMES(A(PLUS(KUR)) KUR)) GUL GUM.(TIMES(SHE)) GUR GUR7 GURUN GURUSH
HA.(GUNU TENU.(GUNU)) HAL HI.(TIMES(ASH.(OVER(HI(TIMES(ASH)))) ASH2 BAD DISH GAD KIN NUN SHE U)) HU
HUB2.(TIMES(AN HAL KASKAL LISH UD)) HUL2 HUSH I.(A) IB IDIM.(OVER(IDIM(BUR SQUARED))) IG IGI.(DIB
GUNU OVER(IGI(SHIR(OVER(SHIR(UD(OVER(UD))))))) RI) IL.(TIMES(GAN2(TENU))) IL2 IM.(CROSSING(IM)
OPPOSING(IM) SQUARED TIMES(TAK4)) IMIN IN IR ISH KA.(TIMES(A AD.(PLUS(KU3)) ANSHE ASH2 ASH3 BAD
BALAG BAR BI BU ERIN2 ESH2 GA GAL GAN2(TENU) GAR.(PLUS(SHA3(PLUS(A)))) GI GIR2 GISH.(CROSSING(GISH)
PLUS(SAR)) GU GUD GUR7 HI(TIMES(ASH2)) IGI IM KA KAK KI KID LI LU LUM ME.(PLUS(DU GI TE))
MI.(PLUS(NUNUZ)) NE NUN PA PI RU SA SAR SHA SHE SHID SHU SHUL SIG SUHUR TAR TU U.(U(U)) U2 UD
UMUM(TIMES(PA)) UR UR2 USH ZI)) KA2.(CROSSING(KA2)) KAB KAD2 KAD3 KAD4 KAD5.(OVER(KAD5))
KAK.(TIMES(IGI(GUNU))) KAL.(CROSSING(KAL) TIMES(BAD)) KAM2 KAM4 KAP(ELAMITE)
KASKAL.(LAGAB(TIMES(U(OVER(LAGAB(TIMES(U))))))
OVER(KASKAL(LAGAB(TIMES(U(OVER(LAGAB(TIMES(U))))))))) KESH2 KI.(TIMES(BAD U UD)) KID KIN KISAL KISH
KISIM5.(OVER(KISIM5)) KU.(OVER(HI(TIMES(ASH2(KU(OVER(HI(TIMES(ASH2))))))))) KU3 KU4.(VARIANT(FORM))
KU7 KUL.(GUNU) KUN KUR.(OPPOSING(KUR)) KUSHU2 KWU318 LA LAGAB.(SQUARED TIMES(A.(PLUS(DA(PLUS(HA))
GAR LAL)) AL AN ASH(ZIDA(TENU)) BAD BI DAR EN GA GAR GI GUD.(PLUS(GUD)) HA HAL HI(TIMES(NUN))
IGI(GUNU) IM.(PLUS(HA LU)) KI KIN KU3 KUL.(PLUS(HI(PLUS(A)))) LAGAB LISH LU LUL ME.(PLUS(EN)) MUSH
NE SHE(PLUS(SUM)) SHITA(PLUS(GISH(PLUS(ERIN2) TENU))) SHU2.(PLUS(SHU2)) SUM TAG TAK4
TE(PLUS(A(PLUS(SU(PLUS(NA)))))) U.(PLUS(A U(PLUS(U)))) U2(PLUS(ASH)) UD USH ZU(OVER(ZU))))
LAGAR.(GUNU.(OVER(LAGAR(GUNU(SHE)))) TIMES(SHE.(PLUS(SUM)))) LAHSHU LAK-003 LAK-021 LAK-025 LAK-030
LAK-050 LAK-051 LAK-062 LAK-079(OVER(LAK-079(GUNU))) LAK-080 LAK-081(OVER(LAK-081)) LAK-092 LAK-130
LAK-142 LAK-210 LAK-219 LAK-220 LAK-225 LAK-228 LAK-238 LAK-265 LAK-266 LAK-343 LAK-347 LAK-348
LAK-383 LAK-384 LAK-390 LAK-441 LAK-449.(TIMES(GU IGI PAP(PLUS(LU3 PAP(PLUS(LU3)))) U2(PLUS(BA))))
LAK-450 LAK-457 LAK-470 LAK-483 LAK-490 LAK-492 LAK-493 LAK-495 LAK-550 LAK-608 LAK-617.(TIMES(ASH
BAD DUN3(GUNU(GUNU)) KU3 LA TAR TE U2 UD URUDA)) LAK-636 LAK-648.(TIMES(DUB GA IGI.(GUNU) NI
PAP(PLUS(PAP(PLUS(LU3)))) SHESH(PLUS(KI)) UD URUDA)) LAK-724 LAK-749 LAL.(TIMES(LAL))
LAM.(TIMES(KUR.(PLUS(RU)))) LI LIL LIMMU2 LISH LU.(TIMES(BAD)) LU2.(CROSSING(LU2) GUNU(TIMES(ASH))
OPPOSING(LU2) SHESHIG.(TIMES(BAD)) SQUARED TENU TIMES(AL BAD DISH ESH2.(PLUS(LAL) TENU) GAN2(TENU)
HAL HI(TIMES(BAD)) IM KAD2 KAD3.(PLUS(ASH)) KI LA(PLUS(ASH)) LAGAB ME(PLUS(EN)) NE NU
PAP.(PLUS(PAP(PLUS(LU3)))) SHU SI(PLUS(ASH)) SIK2(PLUS(BU)) TAK4 TUG2)) LU3 LUGAL.(OPPOSING(LUGAL)
OVER(LUGAL) SHESHIG) LUH LUL LUM.(OVER(LUM.(GAR(OVER(GAR))))) MA.(GUNU TIMES(TAK4)) MA2 MAH MAR
MASH MASH2 ME MES MESH MI.(PLUS(ZA7)) MIN MU.(OVER(MU)) MUG.(GUNU) MUNSUB MURGU2
MUSH.(CROSSING(MUSH) OVER(MUSH.(TIMES(A(PLUS(NA)) GA KAK))) TIMES(A KUR ZA)) MUSH3.(GUNU
TIMES(A.(PLUS(DI)) DI ZA)) NA NA2 NA4 NAGA.(INVERTED OPPOSING(NAGA) TIMES(SHU(TENU))) NAGAR
NAM.(NUTILLU) NAM2 NE.(SHESHIG TIMES(A UD)) NI.(TIMES(E)) NI2 NIM.(TIMES(GAN2(TENU)
GAR(PLUS(GAN2(TENU))))) NIN NIN9 NINDA2.(TIMES(AN ASH.(PLUS(ASH)) BAL DIM(GUNU) GI GISH GUD GUL HI
KESH2 LAK-050 MASH ME(PLUS(GAN2(TENU))) NE NUN PAP(PLUS(PAP)) SHE.(PLUS(A(AN) ASH.(PLUS(ASH))))
U.(PLUS(U)) U2(PLUS(ASH)) URUDA USH)) NISAG NU NU11.(OVER(NU11(BUR(OVER(BUR))))
ROTATED(NINETY(DEGREES)) TENU) NUN.(CROSSING(NUN.(LAGAR(OVER(LAGAR)))) LAGAR(TIMES(GAR MASH
SAL.(OVER(NUN(LAGAR(TIMES(SAL))))) USH)) OVER(NUN) TENU) NUNUZ.(AB2(TIMES(ASHGAB BI DUG GUD
IGI(GUNU) KAD3 LA NE SILA3 U2)) KISIM5(TIMES(BI.(U)))) PA PAD PAN PAP PESH2.(ASTERISK)
PI.(CROSSING(PI) TIMES(A AB BI BU E I IB U U2)) PIR2 PIRIG.(OPPOSING(PIRIG) TIMES(KAL UD ZA)) RA
RAB RI RU SA SAG.(GUNU.(TIMES(HA)) NUTILLU OVER(SAG) TIMES(A DU DUB EN HA IGI(GUNU) KAK KUR LUM MI
NUN SAL SHE(AT(LEFT)) SHID TAB TAK4 U2 UB UM UR USH)) SAL.(LAGAB(TIMES(ASH2))) SANGA2 SAR SHA
SHA3.(TIMES(A BAD GISH NE SHU2 TUR U.(PLUS(A)))) SHA6.(TENU) SHAB6 SHAR2 SHE.(HU
OVER(SHE.(GAD(OVER(GAD(GAR(OVER(GAR))))) TAB(OVER(TAB(GAR(OVER(GAR))))))) PLUS(HUB2 NAM2 SAR))
SHEG9 SHEN SHESH SHESH2 SHESHLAM SHID.(TIMES(A IM)) SHIM.(TIMES(A BAL BULUG DIN GAR IGI.(GUNU)
KUSHU2 LUL MUG SAL)) SHINIG SHIR.(OVER(SHIR(BUR(OVER(BUR)))) TENU) SHITA SHU.(OVER(INVERTED(SHU)))
SHU2.(PLUS(DUG(TIMES(NI)) E2(TIMES(AN)))) SHUBUR SI.(GUNU TIMES(TAK4)) SIG SIG4.(OVER(SIG4(SHU2)))
SIK2 SILA3 SU.(OVER(SU)) SUD SUD2 SUHUR SUM SUMASH SUR SUR9 TA.(ASTERISK GUNU TIMES(HI MI))
TAB.(OVER(TAB(NI(OVER(NI(DISH(OVER(DISH))))))) SQUARED) TAG.(TIMES(BI GUD SHE SHU TUG2 UD))
TAK4.(PLUS(SAG)) TAR TE.(GUNU) TI.(TENU) TI2 TIL TIR.(OVER(TIR.(GAD(OVER(GAD(GAR(OVER(GAR)))))))
TIMES(TAK4)) TU TUG2 TUK TUM.(TIMES(GAN2(TENU) THREE(DISH))) TUR.(OVER(TUR(ZA(OVER(ZA))))) U.(GUD
OVER(U(PA(OVER(PA(GAR(OVER(GAR))))) SUR(OVER(SUR)) U(REVERSED(OVER(U(REVERSED)))))) U.(U)) U2 UB
UD.(GUNU KUSHU2 SHESHIG.(TIMES(BAD)) TIMES(BAD MI U(PLUS(U(PLUS(U.(GUNU))))))) UDUG UM.(TIMES(LAGAB
ME.(PLUS(DA)) SHA3 U)) UMBIN UMUM.(TIMES(KASKAL PA)) UN.(GUNU) UR.(CROSSING(UR) SHESHIG)
UR2.(INVERTED TIMES(A(PLUS(HA NA)) AL HA NUN U2.(PLUS(ASH BI)) UD)) UR4 URI URI3 URU.(TIMES(A
ASHGAB BAR DARA3 DUN GA GAL GAN2(TENU) GAR GU HA IGI IM ISH KI LAK-668 LU3 LUM MIN PA SHE SIG4 TU
U(PLUS(GUD)) UD URUDA)) URUDA.(TIMES(U)) USH.(TIMES(A KU KUR TAK4)) USH2 USHUMX USHX UTUKI
UZ3.(TIMES(KASKAL)) UZU ZA.(SQUARED(TIMES(KUR)) TENU) ZA7 ZAG ZAMX ZE2 ZI.(OVER(ZI)) ZI3
ZIB.(KABA(TENU)) ZIG ZIZ2 ZU.(OVER(ZU(PLUS(SAR)))) ZU5.(TIMES(A THREE(DISH(TENU)))) ZUBUR ZUM))
CUP(ON(BLACK(SQUARE)) WITH(STRAW)) CUPCAKE CUPIDO CURLING(STONE) CURLY(BRACKET(EXTENSION)
LOGICAL(AND OR) LOOP) CURRENCY(EXCHANGE SIGN) CURRY(AND(RICE))
CURVED(STEM(PARAGRAPH(SIGN(ORNAMENT)))) CUSTARD CUSTOMS CUT(OF(MEAT)) CYCLONE CYLINDRICITY
CYPRIOT(SYLLABLE(A E I JA JO KA KE KI KO KU LA LE LI LO LU MA ME MI MO MU NA NE NI NO NU O PA PE PI
PO PU RA RE RI RO RU SA SE SI SO SU TA TE TI TO TU U WA WE WI WO XA XE ZA ZO))
CYPRO-MINOAN(SIGN(CM001 CM002 CM004 CM005 CM006 CM007 CM008 CM009 CM010 CM011 CM012 CM012B CM013
CM015 CM017 CM019 CM021 CM023 CM024 CM025 CM026 CM027 CM028 CM029 CM030 CM033 CM034 CM035 CM036
CM037 CM038 CM039 CM040 CM041 CM044 CM046 CM047 CM049 CM050 CM051 CM052 CM053 CM054 CM055 CM056
CM058 CM059 CM060 CM061 CM062 CM063 CM064 CM066 CM067 CM068 CM069 CM070 CM071 CM072 CM073 CM074
CM075 CM075B CM076 CM078 CM079 CM080 CM081 CM082 CM083 CM084 CM085 CM086 CM087 CM088 CM089 CM090
CM091 CM092 CM094 CM095 CM096 CM097 CM098 CM099 CM100 CM101 CM102 CM103 CM104 CM105 CM107 CM108
CM109 CM110 CM112 CM114 CM301 CM302)) CYRILLIC(CAPITAL(LETTER(A.(WITH(BREVE DIAERESIS))
ABKHASIAN(CHE.(WITH(DESCENDER)) DZE HA) ALEUT(KA) BARRED(O.(WITH(DIAERESIS))) BASHKIR(KA) BE
BIG(YUS) BINOCULAR(O) BLENDED(YUS) BROAD(OMEGA) BYELORUSSIAN-UKRAINIAN(I) CCHE CHE.(WITH(DESCENDER
DIAERESIS VERTICAL(STROKE))) CLOSED(LITTLE(YUS)) CROSSED(O) DCHE DE DJE DJERV DOUBLE(MONOCULAR(O)
O) DWE DZE DZELO DZHE DZWE DZZE DZZHE E.(WITH(DIAERESIS)) EF EL.(WITH(DESCENDER HOOK MIDDLE(HOOK)
TAIL)) EM.(WITH(TAIL)) EN.(WITH(DESCENDER HOOK LEFT(HOOK) MIDDLE(HOOK) TAIL)) ER.(WITH(TICK))
ES.(WITH(DESCENDER)) FITA GHE.(WITH(DESCENDER MIDDLE(HOOK) STROKE.(AND(HOOK)) UPTURN)) GJE
HA.(WITH(DESCENDER HOOK STROKE)) HARD(SIGN) HWE I.(WITH(DIAERESIS GRAVE MACRON)) IE.(WITH(BREVE
GRAVE)) IO IOTA IOTIFIED(A BIG(YUS) CLOSED(LITTLE(YUS)) E LITTLE(YUS) YAT)
IZHITSA.(WITH(DOUBLE(GRAVE(ACCENT)))) JE KA.(WITH(DESCENDER HOOK STROKE VERTICAL(STROKE)))
KHAKASSIAN(CHE) KJE KOMI(DE DJE DZJE LJE NJE SJE TJE ZJE) KOPPA KSI LHA LITTLE(YUS) LJE
MONOCULAR(O) MONOGRAPH(UK) NEUTRAL(YER) NJE O.(WITH(DIAERESIS)) OMEGA.(WITH(TITLO)) OT
PE.(WITH(DESCENDER MIDDLE(HOOK))) PSI QA REVERSED(DZE TSE YU ZE) RHA ROUND(OMEGA)
SCHWA.(WITH(DIAERESIS)) SEMISOFT(SIGN) SHA SHCHA SHHA.(WITH(DESCENDER)) SHORT(I.(WITH(TAIL)) U)
SHWE SOFT(DE EL EM SIGN) STRAIGHT(U.(WITH(STROKE))) TCHE TE.(WITH(DESCENDER MIDDLE(HOOK))) TSE TSHE
TSSE TSWE TWE U.(WITH(DIAERESIS DOUBLE(ACUTE) MACRON)) UK UKRAINIAN(IE) VE WE YA YAE YAT
YERU.(WITH(BACK(YER) DIAERESIS)) YI YN YU ZE.(WITH(DESCENDER DIAERESIS)) ZEMLYA ZHE.(WITH(BREVE
DESCENDER DIAERESIS)) ZHWE) LIGATURE(A(IE) EN(GHE) TE(TSE))) KAVYKA LETTER(MULTIOCULAR(O) PALOCHKA
SMALL(CAPITAL(EL))) PAYEROK SMALL(LETTER(A.(WITH(BREVE DIAERESIS)) ABKHASIAN(CHE.(WITH(DESCENDER))
DZE HA) ALEUT(KA) BARRED(O.(WITH(DIAERESIS))) BASHKIR(KA) BE BIG(YUS) BINOCULAR(O) BLENDED(YUS)
BROAD(OMEGA) BYELORUSSIAN-UKRAINIAN(I) CCHE CHE.(WITH(DESCENDER DIAERESIS VERTICAL(STROKE)))
CLOSED(LITTLE(YUS)) CROSSED(O) DCHE DE DJE DJERV DOUBLE(MONOCULAR(O) O) DWE DZE DZELO DZHE DZWE
DZZE DZZHE E.(WITH(DIAERESIS)) EF EL.(WITH(DESCENDER HOOK MIDDLE(HOOK) TAIL)) EM.(WITH(TAIL))
EN.(WITH(DESCENDER HOOK LEFT(HOOK) MIDDLE(HOOK) TAIL)) ER.(WITH(TICK)) ES.(WITH(DESCENDER)) FITA
GHE.(WITH(DESCENDER MIDDLE(HOOK) STROKE.(AND(HOOK)) UPTURN)) GJE HA.(WITH(DESCENDER HOOK STROKE))
HARD(SIGN) HWE I.(WITH(DIAERESIS GRAVE MACRON)) IE.(WITH(BREVE GRAVE)) IO IOTA IOTIFIED(A BIG(YUS)
CLOSED(LITTLE(YUS)) E LITTLE(YUS) YAT) IZHITSA.(WITH(DOUBLE(GRAVE(ACCENT)))) JE KA.(WITH(DESCENDER
HOOK STROKE VERTICAL(STROKE))) KHAKASSIAN(CHE) KJE KOMI(DE DJE DZJE LJE NJE SJE TJE ZJE) KOPPA KSI
LHA LITTLE(YUS) LJE LONG-LEGGED(DE) MONOCULAR(O) MONOGRAPH(UK) NARROW(O) NEUTRAL(YER) NJE
O.(WITH(DIAERESIS)) OMEGA.(WITH(TITLO)) OT PALOCHKA PE.(WITH(DESCENDER MIDDLE(HOOK))) PSI QA
REVERSED(DZE TSE YU ZE) RHA ROUND(OMEGA) ROUNDED(VE) SCHWA.(WITH(DIAERESIS)) SEMISOFT(SIGN) SHA
SHCHA SHHA.(WITH(DESCENDER)) SHORT(I.(WITH(TAIL)) U) SHWE SOFT(DE EL EM SIGN)
STRAIGHT(U.(WITH(STROKE))) TALL(HARD(SIGN) TE YAT) TCHE TE.(WITH(DESCENDER MIDDLE(HOOK)))
THREE-LEGGED(TE) TSE TSHE TSSE TSWE TWE U.(WITH(DIAERESIS DOUBLE(ACUTE) MACRON)) UK UKRAINIAN(IE)
UNBLENDED(UK) VE WE WIDE(ES) YA YAE YAT YERU.(WITH(BACK(YER) DIAERESIS)) YI YN YU
ZE.(WITH(DESCENDER DIAERESIS)) ZEMLYA ZHE.(WITH(BREVE DESCENDER DIAERESIS)) ZHWE) LIGATURE(A(IE)
EN(GHE) TE(TSE))) THOUSANDS(SIGN)) DAGGER.(KNIFE WITH(LEFT(GUARD) RIGHT(GUARD))) DALET(SYMBOL)
DANCER DANGO DARK(SHADE SUNGLASSES) DASH(SYMBOL WITH(LEFT(UPTURN))) DASHED(LOW(LINE) OVERLINE
TRIANGLE-HEADED(RIGHTWARDS(ARROW))) DATA(LINK(ESCAPE)) DC1 DC2 DC3 DC4 DCS DEAF(PERSON)
DECIDUOUS(TREE) DECIMAL(EXPONENT(SYMBOL) SEPARATOR(KEY(SYMBOL))) DECREASE(FONT(SIZE(SYMBOL))) DEER
DEGREE(CELSIUS FAHRENHEIT SIGN) DEL DELETE DELIVERY(TRUCK) DELTA(EQUAL(TO))
DENTISTRY(SYMBOL(LIGHT(DOWN(AND(HORIZONTAL.(WITH(CIRCLE TRIANGLE WAVE))))
UP(AND(HORIZONTAL.(WITH(CIRCLE TRIANGLE WAVE)))) VERTICAL(AND(BOTTOM(LEFT RIGHT) TOP(LEFT RIGHT)
WAVE) WITH(CIRCLE TRIANGLE))))) DEPARTMENT(STORE) DERELICT(HOUSE(BUILDING)) DESCENDING(NODE)
DESERET(CAPITAL(LETTER(AY BEE CHEE DEE EF EL EM EN ENG ER ES ESH ETH EW GAY H JEE KAY LONG(A AH E I
O OO) OI OW PEE SHORT(A AH E I O OO) TEE THEE VEE WU YEE ZEE ZHEE)) SMALL(LETTER(AY BEE CHEE DEE EF
EL EM EN ENG ER ES ESH ETH EW GAY H JEE KAY LONG(A AH E I O OO) OI OW PEE SHORT(A AH E I O OO) TEE
THEE VEE WU YEE ZEE ZHEE))) DESERT.(ISLAND) DESKTOP(COMPUTER WINDOW) DEVANAGARI(ABBREVIATION(SIGN)
ACUTE(ACCENT) CARET DANDA DIGIT(EIGHT FIVE FOUR NINE ONE SEVEN SIX THREE TWO ZERO) DOUBLE(DANDA)
GAP(FILLER) GRAVE(ACCENT) HEADSTROKE JAIN(OM) LETTER(A AA AI AU AW AY BA BBA BHA CA CANDRA(A E O)
CHA DA DDA DDDA DDDHA DDHA DHA E FA GA GGA GHA GHHA GLOTTAL(STOP) HA HEAVY(YA) I II JA JHA JJA KA
KHA KHHA LA LLA LLLA MA MARWARI(DDA) NA NGA NNA NNNA NYA O OE OOE PA PHA QA RA RHA RRA SA SHA
SHORT(A E O) SSA TA THA TTA TTHA U UE UU UUE VA VOCALIC(L LL R RR) YA YYA ZA ZHA) OM SIGN(ANUSVARA
AVAGRAHA CANDRABINDU.(AVAGRAHA THREE TWO VIRAMA) DOUBLE(CANDRABINDU(VIRAMA)) HIGH(SPACING(DOT))
INVERTED(CANDRABINDU) NUKTA PUSHPIKA SIDDHAM SPACING(CANDRABINDU) VIRAMA VISARGA)
STRESS(SIGN(ANUDATTA UDATTA)) VOWEL(SIGN(AA AI AU AW AY CANDRA(E LONG(E) O) E I II O OE OOE
PRISHTHAMATRA(E) SHORT(E O) U UE UU UUE VOCALIC(L LL R RR)))) DEVICE(CONTROL(FOUR ONE STRING THREE
TWO)) DIAERESIS DIAMETER(SIGN) DIAMOND(OPERATOR SHAPE(WITH(A(DOT(INSIDE)))) TARGET
WITH(BOTTOM(HALF(BLACK)) LEFT(HALF(BLACK)) RIGHT(HALF(BLACK)) TOP(HALF(BLACK)))) DIE(FACE-1 FACE-2
FACE-3 FACE-4 FACE-5 FACE-6) DIESEL(LOCOMOTIVE) DIFFERENCE(BETWEEN) DIGIT(EIGHT.(COMMA FULL(STOP))
FIVE.(COMMA FULL(STOP)) FOUR.(COMMA FULL(STOP)) NINE.(COMMA FULL(STOP)) ONE.(COMMA FULL(STOP))
SEVEN.(COMMA FULL(STOP)) SIX.(COMMA FULL(STOP)) THREE.(COMMA FULL(STOP)) TWO.(COMMA FULL(STOP))
ZERO.(COMMA FULL(STOP))) DIGRAM(FOR(EARTH EARTHLY(HEAVEN HUMAN) GREATER(YANG YIN) HEAVENLY(EARTH)
HUMAN(EARTH) LESSER(YANG YIN))) DIMENSION(ORIGIN) DINGBAT(CIRCLED(SANS-SERIF(DIGIT(EIGHT FIVE FOUR
NINE ONE SEVEN SIX THREE TWO ZERO) NUMBER(TEN))) NEGATIVE(CIRCLED(DIGIT(EIGHT FIVE FOUR NINE ONE
SEVEN SIX THREE TWO) NUMBER(TEN) SANS-SERIF(DIGIT(EIGHT FIVE FOUR NINE ONE SEVEN SIX THREE TWO
ZERO) NUMBER(TEN))))) DIRECT(CURRENT(SYMBOL(FORM(TWO))) HIT) DISABLED(CAR)
DISAPPOINTED(BUT(RELIEVED(FACE)) FACE) DISCONTINUOUS(UNDERLINE(SYMBOL)) DISGUISED(FACE) DITTO(MARK)
DIVES(AKURU(DIGIT(EIGHT FIVE FOUR NINE ONE SEVEN SIX THREE TWO ZERO) DOUBLE(DANDA)
END(OF(TEXT(MARK))) GAP(FILLER) INITIAL(RA) LETTER(A AA BA BHA CA CHA DA DDA DDHA DHA E GA GHA HA I
II JA KA KHA LA LLA MA NA NGA NNA NYA O PA PHA RA SA SHA SSA TA THA TTA U UU VA YA YYA ZA)
MEDIAL(RA YA) PREFIXED(NASAL(SIGN)) SIGN(ANUSVARA CANDRABINDU HALANTA NUKTA) VIRAMA VOWEL(SIGN(AA
AI E I II O U UU)))) DIVIDES DIVING(MASK) DIVISION(SIGN SLASH TIMES) DIVORCE(SYMBOL) DIYA(LAMP)
DIZZY(FACE SYMBOL) DLE DNA(DOUBLE(HELIX)) DO(NOT(LITTER(SYMBOL))) DOCUMENT.(WITH(PICTURE
TEXT.(AND(PICTURE)))) DODO DOES(NOT(CONTAIN(AS(MEMBER NORMAL(SUBGROUP.(OR(EQUAL)))))
DIVIDE.(WITH(REVERSED(NEGATION(SLASH)))) FORCE PRECEDE.(OR(EQUAL)) PROVE SUCCEED.(OR(EQUAL))))
DOG.(FACE) DOGRA(ABBREVIATION(SIGN) LETTER(A AA AI AU BA BHA CA CHA DA DDA DDHA DHA E GA GHA HA I
II JA JHA KA KHA LA MA NA NGA NNA NYA O PA PHA RA RRA SA SHA SSA TA THA TTA TTHA U UU VA YA)
SIGN(ANUSVARA NUKTA VIRAMA VISARGA) VOWEL(SIGN(AA AI AU E I II O U UU VOCALIC(R RR)))) DOLLAR(SIGN)
DOLPHIN DOMINO(TILE(HORIZONTAL(BACK) HORIZONTAL-00-00 HORIZONTAL-00-01 HORIZONTAL-00-02
HORIZONTAL-00-03 HORIZONTAL-00-04 HORIZONTAL-00-05 HORIZONTAL-00-06 HORIZONTAL-01-00
HORIZONTAL-01-01 HORIZONTAL-01-02 HORIZONTAL-01-03 HORIZONTAL-01-04 HORIZONTAL-01-05
HORIZONTAL-01-06 HORIZONTAL-02-00 HORIZONTAL-02-01 HORIZONTAL-02-02 HORIZONTAL-02-03
HORIZONTAL-02-04 HORIZONTAL-02-05 HORIZONTAL-02-06 HORIZONTAL-03-00 HORIZONTAL-03-01
HORIZONTAL-03-02 HORIZONTAL-03-03 HORIZONTAL-03-04 HORIZONTAL-03-05 HORIZONTAL-03-06
HORIZONTAL-04-00 HORIZONTAL-04-01 HORIZONTAL-04-02 HORIZONTAL-04-03 HORIZONTAL-04-04
HORIZONTAL-04-05 HORIZONTAL-04-06 HORIZONTAL-05-00 HORIZONTAL-05-01 HORIZONTAL-05-02
HORIZONTAL-05-03 HORIZONTAL-05-04 HORIZONTAL-05-05 HORIZONTAL-05-06 HORIZONTAL-06-00
HORIZONTAL-06-01 HORIZONTAL-06-02 HORIZONTAL-06-03 HORIZONTAL-06-04 HORIZONTAL-06-05
HORIZONTAL-06-06 VERTICAL(BACK) VERTICAL-00-00 VERTICAL-00-01 VERTICAL-00-02 VERTICAL-00-03
VERTICAL-00-04 VERTICAL-00-05 VERTICAL-00-06 VERTICAL-01-00 VERTICAL-01-01 VERTICAL-01-02
VERTICAL-01-03 VERTICAL-01-04 VERTICAL-01-05 VERTICAL-01-06 VERTICAL-02-00 VERTICAL-02-01
VERTICAL-02-02 VERTICAL-02-03 VERTICAL-02-04 VERTICAL-02-05 VERTICAL-02-06 VERTICAL-03-00
VERTICAL-03-01 VERTICAL-03-02 VERTICAL-03-03 VERTICAL-03-04 VERTICAL-03-05 VERTICAL-03-06
VERTICAL-04-00 VERTICAL-04-01 VERTICAL-04-02 VERTICAL-04-03 VERTICAL-04-04 VERTICAL-04-05
VERTICAL-04-06 VERTICAL-05-00 VERTICAL-05-01 VERTICAL-05-02 VERTICAL-05-03 VERTICAL-05-04
VERTICAL-05-05 VERTICAL-05-06 VERTICAL-06-00 VERTICAL-06-01 VERTICAL-06-02 VERTICAL-06-03
VERTICAL-06-04 VERTICAL-06-05 VERTICAL-06-06)) DONG(SIGN) DOOR DOT(ABOVE MINUS OPERATOR PLUS)
DOTTED(CIRCLE CROSS FENCE LINE(FACE) OBELOS RIGHT-POINTING(ANGLE) SOLIDUS SQUARE
TRANSPOSITION(MARKER)) DOUBLE(ACUTE(ACCENT) CIRCLED(DIGIT(EIGHT FIVE FOUR NINE ONE SEVEN SIX THREE
TWO) NUMBER(TEN)) COLON(EQUAL) CURLY(LOOP) DAGGER DOWN(TACK) EXCLAMATION(MARK)
HIGH-REVERSED-9(QUOTATION(MARK)) HYPHEN INTEGRAL INTERSECTION LEFT(ARC(GREATER-THAN(BRACKET)))
LOGICAL(AND OR) LOW(LINE) LOW-9(QUOTATION(MARK)) LOW-REVERSED-9(QUOTATION(MARK))
NESTED(GREATER-THAN LESS-THAN.(WITH(UNDERBAR))) OBLIQUE(HYPHEN) PLUS PRECEDES
PRIME.(QUOTATION(MARK)) QUESTION(MARK) RIGHT(ARC(LESS-THAN(BRACKET))) SOLIDUS(OPERATOR)
SQUARE(INTERSECTION UNION) STACKED(COMMA) STROKE(NOT(SIGN)) SUBSET SUCCEEDS SUPERSET
SUSPENSION(MARK) UNION UP(TACK) VERTICAL(BAR.(DOUBLE(LEFT(TURNSTILE) RIGHT(TURNSTILE))
LEFT(TURNSTILE)) LINE) WAVY(OVERLINE)) DOUBLE-ENDED(MULTIMAP) DOUBLE-LINE(EQUAL(TO(OR(GREATER-THAN
LESS-THAN))) SLANTED(EQUAL(TO(OR(GREATER-THAN LESS-THAN))) GREATER-THAN(OR(EQUAL(TO)))
LESS-THAN(OR(EQUAL(TO))))) DOUBLE-STRUCK(CAPITAL(C GAMMA H N P PI Q R Z) ITALIC(CAPITAL(D) SMALL(D
E I J)) N-ARY(SUMMATION) SMALL(GAMMA PI)) DOUBLED(FEMALE(SIGN) MALE(SIGN) SYMBOL) DOUGHNUT
DOVE(OF(PEACE)) DOWN(ARROWHEAD FISH(TAIL) RIGHT(DIAGONAL(ELLIPSIS)) TACK.(WITH(CIRCLE(BELOW))))
DOWN-POINTING(RED(TRIANGLE) SMALL(RED(TRIANGLE)) TRIANGLE(WITH(LEFT(HALF(BLACK))
RIGHT(HALF(BLACK))))) DOWNWARD(FACING(HOOK.(WITH(DOT)) NOTCHED(HOOK.(WITH(DOT))))) DOWNWARDS(ANCORA
ARROW.(AND(RIGHT(ONE(EIGHTH(BLOCK)))) FROM(BAR) LEFTWARDS(OF(UPWARDS(ARROW))) TO(BAR)
WITH(CORNER(LEFTWARDS) DOUBLE(STROKE) EQUILATERAL(ARROWHEAD) HORIZONTAL(STROKE)
LARGE(TRIANGLE(ARROWHEAD)) MEDIUM(TRIANGLE(ARROWHEAD)) NOTCHED(TAIL) SMALL(EQUILATERAL(ARROWHEAD)
TRIANGLE(ARROWHEAD)) TIP(LEFTWARDS RIGHTWARDS))) BLACK(ARROW CIRCLED(WHITE(ARROW)))
COMPRESSED(ARROW) DASHED(ARROW) DOUBLE(ARROW) FINGER-POST(ARROW)
HARPOON(WITH(BARB(LEFT(BESIDE(DOWNWARDS(HARPOON(WITH(BARB(RIGHT))))
UPWARDS(HARPOON(WITH(BARB(RIGHT))))) FROM(BAR) TO(BAR)) LEFTWARDS RIGHT(FROM(BAR) TO(BAR))
RIGHTWARDS))) HEAVY(ARROW COMPRESSED(ARROW)) PAIRED(ARROWS) QUADRUPLE(ARROW) ROCKET
SANS-SERIF(ARROW) SQUARED(ARROW) TRIANGLE(ARROWHEAD)
TRIANGLE-HEADED(ARROW.(LEFTWARDS(OF(UPWARDS(TRIANGLE-HEADED(ARROW)))) TO(BAR) WITH(BOLD(SHAFT)
DOUBLE(HORIZONTAL(STROKE)) HEAVY(SHAFT) LONG(TIP(LEFTWARDS RIGHTWARDS)) MEDIUM(SHAFT) NARROW(SHAFT)
VERY(HEAVY(SHAFT)))) DASHED(ARROW) PAIRED(ARROWS) ZIGZAG(ARROW)) TRIPLE(ARROW) TWO(HEADED(ARROW))
TWO-HEADED(ARROW(WITH(TRIANGLE(ARROWHEADS)))) WHITE(ARROW.(WITHIN(TRIANGLE(ARROWHEAD))))
ZIGZAG(ARROW)) DRACHMA(SIGN) DRAFTING(POINT(RIGHTWARDS(ARROW))) DRAGON.(FACE) DRESS
DRIVE(SLOW(SIGN)) DROMEDARY(CAMEL) DROOLING(FACE) DROP(OF(BLOOD)) DROPLET DRUM(WITH(DRUMSTICKS))
DUCK DUMPLING DUPLOYAN(AFFIX(ATTACHED(E(HOOK) I(HOOK) LEFT-TO-RIGHT(SECANT) SECANT TAIL
TANGENT.(HOOK)) HIGH(ACUTE CIRCLE DOT GRAVE LINE LONG(GRAVE) TIGHT(ACUTE) VERTICAL.(SECANT) WAVE)
LEFT(HORIZONTAL(SECANT)) LOW(ACUTE ARROW CIRCLE DOT GRAVE LINE LONG(GRAVE) TIGHT(ACUTE)
VERTICAL.(SECANT) WAVE) MID(HORIZONTAL(SECANT) VERTICAL(SECANT)) RIGHT(HORIZONTAL(SECANT)))
DOUBLE(MARK) LETTER(A AOU B D.(S) DH E EE EU F.(N) G.(R(S)) H HL I IE J.(M.(S) N.(S) S.(WITH(DOT))
WITH(DOT DOTS(INSIDE(AND(ABOVE))))) K.(M R(S)) KK L LH LONG(I U) M.(N.(S) S WITH(DOT)) N.(M.(S) S
WITH(DOT)) NASAL(A I O U) O OA OOH OU OW P.(N) PERNIN(AM AN) R.(S) RH ROMANIAN(I U) S.(J.(S) K.(R)
M N P.(R) S T.(R) WITH(DOT.(BELOW))) SHORT(I) SLOAN(AN DH EE EH EN J ON OW U) T.(R(S) S) TH U.(N)
UH UI V VOCALIC(M) W.(R) WA WEI WH WI WO WOW X XW YE) PUNCTUATION(CHINOOK(FULL(STOP)))
SIGN(O(WITH(CROSS))) THICK(LETTER(SELECTOR))) DVD E-MAIL(SYMBOL) EAGLE EAR.(OF(MAIZE RICE)
WITH(HEARING(AID))) EARTH.(GLOBE(AMERICAS ASIA-AUSTRALIA EUROPE-AFRICA) GROUND) EAST(SYRIAC(CROSS))
EDITORIAL(CORONIS) EGG EGYPTIAN(HIEROGLYPH(A001 A002 A003 A004 A005 A005A A006 A006A A006B A007
A008 A009 A010 A011 A012 A013 A014 A014A A015 A016 A017 A017A A018 A019 A020 A021 A022 A023 A024
A025 A026 A027 A028 A029 A030 A031 A032 A032A A033 A034 A035 A036 A037 A038 A039 A040 A040A A041
A042 A042A A043 A043A A044 A045 A045A A046 A047 A048 A049 A050 A051 A052 A053 A054 A055 A056 A057
A058 A059 A060 A061 A062 A063 A064 A065 A066 A067 A068 A069 A070 AA001 AA002 AA003 AA004 AA005
AA006 AA007 AA007A AA007B AA008 AA009 AA010 AA011 AA012 AA013 AA014 AA015 AA016 AA017 AA018 AA019
AA020 AA021 AA022 AA023 AA024 AA025 AA026 AA027 AA028 AA029 AA030 AA031 AA032 B001 B002 B003 B004
B005 B005A B006 B007 B008 B009 BEGIN(SEGMENT) C001 C002 C002A C002B C002C C003 C004 C005 C006 C007
C008 C009 C010 C010A C011 C012 C013 C014 C015 C016 C017 C018 C019 C020 C021 C022 C023 C024 D001
D002 D003 D004 D005 D006 D007 D008 D008A D009 D010 D011 D012 D013 D014 D015 D016 D017 D018 D019
D020 D021 D022 D023 D024 D025 D026 D027 D027A D028 D029 D030 D031 D031A D032 D033 D034 D034A D035
D036 D037 D038 D039 D040 D041 D042 D043 D044 D045 D046 D046A D047 D048 D048A D049 D050 D050A D050B
D050C D050D D050E D050F D050G D050H D050I D051 D052 D052A D053 D054 D054A D055 D056 D057 D058 D059
D060 D061 D062 D063 D064 D065 D066 D067 D067A D067B D067C D067D D067E D067F D067G D067H E001 E002
E003 E004 E005 E006 E007 E008 E008A E009 E009A E010 E011 E012 E013 E014 E015 E016 E016A E017 E017A
E018 E019 E020 E020A E021 E022 E023 E024 E025 E026 E027 E028 E028A E029 E030 E031 E032 E033 E034
E034A E036 E037 E038 END(SEGMENT) F001 F001A F002 F003 F004 F005 F006 F007 F008 F009 F010 F011 F012
F013 F013A F014 F015 F016 F017 F018 F019 F020 F021 F021A F022 F023 F024 F025 F026 F027 F028 F029
F030 F031 F031A F032 F033 F034 F035 F036 F037 F037A F038 F038A F039 F040 F041 F042 F043 F044 F045
F045A F046 F046A F047 F047A F048 F049 F050 F051 F051A F051B F051C F052 F053 G001 G002 G003 G004
G005 G006 G006A G007 G007A G007B G008 G009 G010 G011 G011A G012 G013 G014 G015 G016 G017 G018 G019
G020 G020A G021 G022 G023 G024 G025 G026 G026A G027 G028 G029 G030 G031 G032 G033 G034 G035 G036
G036A G037 G037A G038 G039 G040 G041 G042 G043 G043A G044 G045 G045A G046 G047 G048 G049 G050 G051
G052 G053 G054 H001 H002 H003 H004 H005 H006 H006A H007 H008 HORIZONTAL(JOINER) I001 I002 I003 I004
I005 I005A I006 I007 I008 I009 I009A I010 I010A I011 I011A I012 I013 I014 I015 INSERT(AT(BOTTOM(END
START) TOP(END START))) K001 K002 K003 K004 K005 K006 K007 K008 L001 L002 L002A L003 L004 L005 L006
L006A L007 L008 M001 M001A M001B M002 M003 M003A M004 M005 M006 M007 M008 M009 M010 M010A M011 M012
M012A M012B M012C M012D M012E M012F M012G M012H M013 M014 M015 M015A M016 M016A M017 M017A M018
M019 M020 M021 M022 M022A M023 M024 M024A M025 M026 M027 M028 M028A M029 M030 M031 M031A M032 M033
M033A M033B M034 M035 M036 M037 M038 M039 M040 M040A M041 M042 M043 M044 N001 N002 N003 N004 N005
N006 N007 N008 N009 N010 N011 N012 N013 N014 N015 N016 N017 N018 N018A N018B N019 N020 N021 N022
N023 N024 N025 N025A N026 N027 N028 N029 N030 N031 N032 N033 N033A N034 N034A N035 N035A N036 N037
N037A N038 N039 N040 N041 N042 NL001 NL002 NL003 NL004 NL005 NL005A NL006 NL007 NL008 NL009 NL010
NL011 NL012 NL013 NL014 NL015 NL016 NL017 NL017A NL018 NL019 NL020 NU001 NU002 NU003 NU004 NU005
NU006 NU007 NU008 NU009 NU010 NU010A NU011 NU011A NU012 NU013 NU014 NU015 NU016 NU017 NU018 NU018A
NU019 NU020 NU021 NU022 NU022A O001 O001A O002 O003 O004 O005 O005A O006 O006A O006B O006C O006D
O006E O006F O007 O008 O009 O010 O010A O010B O010C O011 O012 O013 O014 O015 O016 O017 O018 O019
O019A O020 O020A O021 O022 O023 O024 O024A O025 O025A O026 O027 O028 O029 O029A O030 O030A O031
O032 O033 O033A O034 O035 O036 O036A O036B O036C O036D O037 O038 O039 O040 O041 O042 O043 O044 O045
O046 O047 O048 O049 O050 O050A O050B O051 OVERLAY(MIDDLE) P001 P001A P002 P003 P003A P004 P005 P006
P007 P008 P009 P010 P011 Q001 Q002 Q003 Q004 Q005 Q006 Q007 R001 R002 R002A R003 R003A R003B R004
R005 R006 R007 R008 R009 R010 R010A R011 R012 R013 R014 R015 R016 R016A R017 R018 R019 R020 R021
R022 R023 R024 R025 R026 R027 R028 R029 S001 S002 S002A S003 S004 S005 S006 S006A S007 S008 S009
S010 S011 S012 S013 S014 S014A S014B S015 S016 S017 S017A S018 S019 S020 S021 S022 S023 S024 S025
S026 S026A S026B S027 S028 S029 S030 S031 S032 S033 S034 S035 S035A S036 S037 S038 S039 S040 S041
S042 S043 S044 S045 S046 T001 T002 T003 T003A T004 T005 T006 T007 T007A T008 T008A T009 T009A T010
T011 T011A T012 T013 T014 T015 T016 T016A T017 T018 T019 T020 T021 T022 T023 T024 T025 T026 T027
T028 T029 T030 T031 T032 T032A T033 T033A T034 T035 T036 U001 U002 U003 U004 U005 U006 U006A U006B
U007 U008 U009 U010 U011 U012 U013 U014 U015 U016 U017 U018 U019 U020 U021 U022 U023 U023A U024
U025 U026 U027 U028 U029 U029A U030 U031 U032 U032A U033 U034 U035 U036 U037 U038 U039 U040 U041
U042 V001 V001A V001B V001C V001D V001E V001F V001G V001H V001I V002 V002A V003 V004 V005 V006 V007
V007A V007B V008 V009 V010 V011 V011A V011B V011C V012 V012A V012B V013 V014 V015 V016 V017 V018
V019 V020 V020A V020B V020C V020D V020E V020F V020G V020H V020I V020J V020K V020L V021 V022 V023
V023A V024 V025 V026 V027 V028 V028A V029 V029A V030 V030A V031 V031A V032 V033 V033A V034 V035
V036 V037 V037A V038 V039 V040 V040A VERTICAL(JOINER) W001 W002 W003 W003A W004 W005 W006 W007 W008
W009 W009A W010 W010A W011 W012 W013 W014 W014A W015 W016 W017 W017A W018 W018A W019 W020 W021 W022
W023 W024 W024A W025 X001 X002 X003 X004 X004A X004B X005 X006 X006A X007 X008 X008A Y001 Y001A
Y002 Y003 Y004 Y005 Y006 Y007 Y008 Z001 Z002 Z002A Z002B Z002C Z002D Z003 Z003A Z003B Z004 Z004A
Z005 Z005A Z006 Z007 Z008 Z009 Z010 Z011 Z012 Z013 Z014 Z015 Z015A Z015B Z015C Z015D Z015E Z015F
Z015G Z015H Z015I Z016 Z016A Z016B Z016C Z016D Z016E Z016F Z016G Z016H))
EIGHT(PETALLED(OUTLINED(BLACK(FLORETTE))) POINTED(BLACK(STAR) PINWHEEL(STAR)
RECTILINEAR(BLACK(STAR))) SPOKED(ASTERISK) TEARDROP-SPOKED(PROPELLER(ASTERISK))) EIGHTH(NOTE)
EJECT(SYMBOL) ELBASAN(LETTER(A BE CE CHE DE DHE E EI FE GE GHAMMA GHE GJE HE I JE KE KHE LE LLE ME
NA NDE NE NJE O PE QE RE RRE SE SHE TE THE U VE XE Y ZE ZHE)) ELECTRIC(ARROW LIGHT(BULB) PLUG
TORCH) ELECTRICAL(INTERSECTION) ELEMENT(OF.(OPENING(DOWNWARDS UPWARDS) WITH(DOT(ABOVE)
LONG(HORIZONTAL(STROKE)) OVERBAR TWO(HORIZONTAL(STROKES)) UNDERBAR
VERTICAL(BAR(AT(END(OF(HORIZONTAL(STROKE))))))))) ELEPHANT ELEVATOR ELF ELYMAIC(LETTER(ALEPH AYIN
BETH DALETH GIMEL HE HETH KAPH LAMEDH MEM NUN PE QOPH RESH SADHE SAMEKH SHIN TAW TETH WAW YODH
ZAYIN) LIGATURE(ZAYIN-YODH)) EM(DASH QUAD SPACE) EMOJI(COMPONENT(BALD CURLY(HAIR) RED(HAIR)
WHITE(HAIR)) MODIFIER(FITZPATRICK(TYPE-1-2 TYPE-3 TYPE-4 TYPE-5 TYPE-6))) EMPHASIS(SYMBOL)
EMPTY(DOCUMENT NEST NOTE.(PAD PAGE) PAGE PAGES SET.(WITH(LEFT(ARROW(ABOVE)) OVERBAR
RIGHT(ARROW(ABOVE)) SMALL(CIRCLE(ABOVE))))) EN(DASH QUAD SPACE) END(OF(GUARDED(AREA) LINE MEDIUM
PROOF PROTECTED(AREA) SELECTED(AREA) TEXT TRANSMISSION.(BLOCK)) WITH(LEFTWARDS(ARROW(ABOVE)))) ENQ
ENQUIRY ENTER(SYMBOL) ENVELOPE.(WITH(DOWNWARDS(ARROW(ABOVE)) LIGHTNING)) EOL EOM EOT EPA
EQUAL(AND(PARALLEL(TO)) TO(BY(DEFINITION) OR(GREATER-THAN LESS-THAN PRECEDES SUCCEEDS)))
EQUALS(COLON SIGN.(ABOVE(LEFTWARDS(ARROW) PLUS(SIGN) RIGHTWARDS(ARROW) TILDE(OPERATOR))
AND(SLANTED(PARALLEL.(WITH(TILDE(ABOVE))))) WITH(BUMPY(ABOVE) DOT(BELOW) INFINITY(BELOW)
TWO(DOTS(ABOVE(AND(TWO(DOTS(BELOW)))))))) WITH(ASTERISK)) EQUIANGULAR(TO) EQUIVALENT(TO
WITH(FOUR(DOTS(ABOVE)))) ERASE(TO(THE(LEFT RIGHT))) ERIS(FORM(ONE TWO)) ERROR-BARRED(BLACK(CIRCLE
DIAMOND SQUARE) WHITE(CIRCLE DIAMOND SQUARE)) ESA ESC ESCAPE ESTIMATED(SYMBOL) ESTIMATES ETB
ETHIOPIC(COLON COMBINING(GEMINATION(AND(VOWEL(LENGTH(MARK))) MARK) VOWEL(LENGTH(MARK))) COMMA
DIGIT(EIGHT FIVE FOUR NINE ONE SEVEN SIX THREE TWO) FULL(STOP) NUMBER(EIGHTY FIFTY FORTY HUNDRED
NINETY SEVENTY SIXTY TEN.(THOUSAND) THIRTY TWENTY) PARAGRAPH(SEPARATOR) PREFACE(COLON)
QUESTION(MARK) SECTION(MARK) SEMICOLON SYLLABLE(BA BAA BBA BBAA BBE BBEE BBI BBO BBU BE BEE BI BO
BOA BU BWA BWE BWEE BWI CA CAA CCA CCAA CCE CCEE CCHA CCHAA CCHE CCHEE CCHHA CCHHAA CCHHE CCHHEE
CCHHI CCHHO CCHHU CCHI CCHO CCHU CCI CCO CCU CE CEE CHA CHAA CHE CHEE CHI CHO CHOA CHU CHWA CI CO
COA CU CWA DA DAA DDA DDAA DDE DDEE DDHAA DDHE DDHEE DDHI DDHO DDHU DDI DDO DDOA DDU DDWA DE DEE DI
DO DOA DU DWA DZAA DZE DZEE DZI DZO DZU FA FAA FE FEE FI FO FU FWA FWE FWEE FWI FYA GA GAA GE GEE
GGA GGAA GGE GGEE GGI GGO GGU GGWA GGWAA GGWE GGWEE GGWI GI GLOTTAL(A AA E EE I O OA U WA) GO GOA
GU GURAGE(BWEE BWI FWEE FWI GWE GWEE GWI HHWA KWE KWEE KWI MWEE MWI PWEE PWI QWE QWEE QWI) GWA GWAA
GWE GWEE GWI GYA GYAA GYE GYEE GYI GYO GYU HA HAA HE HEE HHA HHAA HHE HHEE HHI HHO HHU HHWA HHWE
HHWEE HHWI HHYA HHYAA HHYE HHYEE HHYI HHYO HHYU HI HO HOA HU JA JAA JE JEE JI JO JOA JU JWA KA KAA
KE KEE KI KO KOA KU KWA KWAA KWE KWEE KWI KXA KXAA KXE KXEE KXI KXO KXU KXWA KXWAA KXWE KXWEE KXWI
KYA KYAA KYE KYEE KYI KYO KYU LA LAA LE LEE LI LO LOA LU LWA MA MAA ME MEE MI MO MOA MU MWA MWE
MWEE MWI MYA NA NAA NE NEE NI NO NOA NU NWA NYA NYAA NYE NYEE NYI NYO NYOA NYU NYWA PA PAA PE PEE
PHA PHAA PHARYNGEAL(A AA E EE I O U) PHE PHEE PHI PHO PHOA PHU PHWA PI PO POA PU PWA PWE PWEE PWI
QA QAA QE QEE QHA QHAA QHE QHEE QHI QHO QHU QHWA QHWAA QHWE QHWEE QHWI QI QO QOA QU QWA QWAA QWE
QWEE QWI QYA QYAA QYE QYEE QYI QYO QYU RA RAA RE REE RI RO ROA RU RWA RYA SA SAA SE SEBATBEIT(BWA
FWA MWA PWA) SEE SHA SHAA SHE SHEE SHI SHO SHOA SHU SHWA SI SO SOA SSA SSAA SSE SSEE SSI SSO SSU SU
SWA SZA SZAA SZE SZEE SZI SZO SZU SZWA TA TAA TE TEE THA THAA THE THEE THI THO THOA THU THWA TI TO
TOA TSA TSAA TSE TSEE TSI TSO TSU TSWA TTHAA TTHE TTHEE TTHI TTHO TTHU TU TWA TZA TZAA TZE TZEE TZI
TZO TZOA TZU VA VAA VE VEE VI VO VU VWA WA WAA WE WEE WI WO WOA WU XA XAA XE XEE XI XO XOA XU XWA
XWAA XWE XWEE XWI XYA XYAA XYE XYEE XYI XYO XYU YA YAA YE YEE YI YO YOA YU ZA ZAA ZE ZEE ZHA ZHAA
ZHE ZHEE ZHI ZHO ZHU ZHWA ZI ZO ZOA ZU ZWA ZZA ZZAA ZZE ZZEE ZZI ZZO ZZU) TONAL(MARK(CHIRET DERET
DERET-HIDET DIFAT HIDET KENAT KURT RIKRIK SHORT(RIKRIK) YIZET)) WORDSPACE) ETX EULER(CONSTANT)
EURO(SIGN) EURO-CURRENCY(SIGN) EUROPEAN(CASTLE POST(OFFICE)) EVERGREEN(TREE) EXCESS
EXCLAMATION(MARK QUESTION(MARK)) EXPRESSIONLESS(FACE) EXTENDED(ARABIC-INDIC(DIGIT(EIGHT FIVE FOUR
NINE ONE SEVEN SIX THREE TWO ZERO))) EXTRATERRESTRIAL(ALIEN) EXTREMELY(HEAVY(FIVE(SPOKED(ASTERISK))
GREEK(CROSS) SALTIRE SIX(SPOKED(ASTERISK)) WHITE(CIRCLE SQUARE))) EYE EYEGLASSES EYES
FACE(HOLDING(BACK(TEARS)) MASSAGE PALM SAVOURING(DELICIOUS(FOOD)) SCREAMING(IN(FEAR))
THROWING(A(KISS)) WITH(COLD(SWEAT) COWBOY(HAT) DIAGONAL(MOUTH) FINGER(COVERING(CLOSED(LIPS)))
HEAD-BANDAGE LOOK(OF(TRIUMPH)) MEDICAL(MASK) MONOCLE NO(GOOD(GESTURE)) OK(GESTURE)
ONE(EYEBROW(RAISED)) OPEN(EYES(AND(HAND(OVER(MOUTH)))) MOUTH.(AND(COLD(SWEAT)) VOMITING))
PARTY(HORN(AND(PARTY(HAT)))) PEEKING(EYE) PLEADING(EYES) ROLLING(EYES)
STUCK-OUT(TONGUE.(AND(TIGHTLY-CLOSED(EYES) WINKING(EYE)))) TEARS(OF(JOY)) THERMOMETER
UNEVEN(EYES(AND(WAVY(MOUTH))))) WITHOUT(MOUTH)) FACSIMILE(SIGN) FACTORY FAIRY FALAFEL FALLEN(LEAF)
FALLING(DIAGONAL(CROSSING(NORTH(EAST(ARROW)) RISING(DIAGONAL))
IN(WHITE(CIRCLE(IN(BLACK(SQUARE))))))) FAMILY FARSI(SYMBOL) FATHER(CHRISTMAS) FAX(ICON MACHINE)
FEARFUL(FACE) FEATHER FEMALE(SIGN) FEMININE(ORDINAL(INDICATOR)) FENCER FERRIS(WHEEL) FERRY FF
FIELD(HOCKEY(STICK(AND(BALL)))) FIGURE(DASH SPACE) FILE(CABINET FOLDER SEPARATOR) FILM(FRAMES
PROJECTOR) FINITE(PART(INTEGRAL)) FIRE.(ENGINE EXTINGUISHER) FIRECRACKER FIREWORK(SPARKLER)
FIREWORKS FIRST(PLACE(MEDAL) QUARTER(MOON.(SYMBOL WITH(FACE))) STRONG(ISOLATE))
FISH.(CAKE(WITH(SWIRL(DESIGN)))) FISHEYE FISHING(POLE(AND(FISH))) FISTED(HAND(SIGN)) FIVE(DOT(MARK
PUNCTUATION)) FLAG(IN(HOLE)) FLAMINGO FLAT(SHOE) FLATBREAD FLATNESS FLEUR-DE-LIS FLEXED(BICEPS)
FLOPPY(DISK) FLORAL(HEART) FLOWER.(PLAYING(CARDS) PUNCTUATION(MARK)) FLUSHED(FACE) FLY FLYING(DISC
ENVELOPE SAUCER) FOG FOGGY FOLDER FONDUE FOOT FOOTPRINTS FOR(ALL) FORCES
FORK(AND(KNIFE.(WITH(PLATE)))) FORKED(PARAGRAPHOS) FORKING FORM(FEED) FORTUNE(COOKIE) FOUNTAIN
FOUR(BALLOON-SPOKED(ASTERISK) CLUB-SPOKED(ASTERISK) CORNER(ARROWS(CIRCLING(ANTICLOCKWISE)))
DOT(MARK PUNCTUATION) LEAF(CLOVER) POINTED(BLACK(STAR)) TEARDROP-SPOKED(ASTERISK))
FOUR-PER-EM(SPACE) FOURTH(ROOT) FOX(FACE) FRACTION(NUMERATOR(ONE) SLASH) FRAME(WITH(AN(X) PICTURE
TILES)) FREEZING(FACE) FRENCH(FRANC(SIGN) FRIES) FRIED(SHRIMP) FROG(FACE) FRONT-FACING(BABY(CHICK))
FRONT-TILTED(SHADOWED(WHITE(RIGHTWARDS(ARROW)))) FROWN FROWNING(FACE(WITH(OPEN(MOUTH)))) FS FSI
FUEL(PUMP) FULL(BLOCK MOON(SYMBOL WITH(FACE)) OUTER(JOIN) STOP) FULLWIDTH(AMPERSAND APOSTROPHE
ASTERISK BROKEN(BAR) CENT(SIGN) CIRCUMFLEX(ACCENT) COLON COMMA COMMERCIAL(AT) DIGIT(EIGHT FIVE FOUR
NINE ONE SEVEN SIX THREE TWO ZERO) DOLLAR(SIGN) EQUALS(SIGN) EXCLAMATION(MARK) FULL(STOP)
GRAVE(ACCENT) GREATER-THAN(SIGN) HYPHEN-MINUS LATIN(CAPITAL(LETTER(A B C D E F G H I J K L M N O P
Q R S T U V W X Y Z)) SMALL(LETTER(A B C D E F G H I J K L M N O P Q R S T U V W X Y Z)))
LEFT(CURLY(BRACKET) PARENTHESIS SQUARE(BRACKET) WHITE(PARENTHESIS)) LESS-THAN(SIGN) LOW(LINE)
MACRON NOT(SIGN) NUMBER(SIGN) PERCENT(SIGN) PLUS(SIGN) POUND(SIGN) QUESTION(MARK) QUOTATION(MARK)
REVERSE(SOLIDUS) RIGHT(CURLY(BRACKET) PARENTHESIS SQUARE(BRACKET) WHITE(PARENTHESIS)) SEMICOLON
SOLIDUS TILDE VERTICAL(LINE) WON(SIGN) YEN(SIGN)) FUNCTION(APPLICATION) FUNERAL(URN) FUSE FVS1 FVS2
FVS3 FVS4 GAME(DIE) GARLIC GEAR.(WITH(HANDLES) WITHOUT(HUB)) GEM(STONE) GEMINI GENIE
GEOMETRIC(PROPORTION) GEOMETRICALLY(EQUAL(TO) EQUIVALENT(TO)) GEORGIAN(CAPITAL(LETTER(AEN AN BAN
CAN CHAR CHIN CIL DON EN GAN GHAN HAE HAR HE HIE HOE IN JHAN JIL KAN KHAR LAS MAN NAR ON PAR PHAR
QAR RAE SAN SHIN TAN TAR UN VIN WE XAN YN ZEN ZHAR)) LETTER(AEN AIN AN BAN CAN CHAR CHIN CIL DON
ELIFI EN FI GAN GHAN HAE HAR HARD(SIGN) HE HIE HOE IN JHAN JIL KAN KHAR LABIAL(SIGN) LAS MAN NAR ON
PAR PHAR QAR RAE SAN SHIN TAN TAR TURNED(GAN) UN VIN WE XAN YN ZEN ZHAR)
MTAVRULI(CAPITAL(LETTER(AEN AIN AN BAN CAN CHAR CHIN CIL DON ELIFI EN FI GAN GHAN HAE HAR
HARD(SIGN) HE HIE HOE IN JHAN JIL KAN KHAR LABIAL(SIGN) LAS MAN NAR ON PAR PHAR QAR RAE SAN SHIN
TAN TAR TURNED(GAN) UN VIN WE XAN YN ZEN ZHAR))) PARAGRAPH(SEPARATOR) SMALL(LETTER(AEN AN BAN CAN
CHAR CHIN CIL DON EN GAN GHAN HAE HAR HE HIE HOE IN JHAN JIL KAN KHAR LAS MAN NAR ON PAR PHAR QAR
RAE SAN SHIN TAN TAR UN VIN WE XAN YN ZEN ZHAR))) GERMAN(PENNY(SIGN)) GETA(MARK) GHOST
GIMEL(SYMBOL) GIRAFFE(FACE) GIRL GIRLS(SYMBOL) GLAGOLITIC(CAPITAL(LETTER(AZU BIG(YUS) BUKY
CAUDATE(CHRIVI) CHRIVI DJERVI DOBRO DZELO FITA FRITU GLAGOLI HERU I INITIAL(IZHE) IOTATED(BIG(YUS)
SMALL(YUS)) IZHE IZHITSA KAKO LATINATE(MYSLITE) LJUDIJE MYSLITE NASHI ONU OTU PE POKOJI RITSI SHA
SHTA SHTAPIC SLOVO SMALL(YUS.(WITH(TAIL))) SPIDERY(HA) TROKUTASTI(A) TSI TVRIDO UKU VEDE YATI YERI
YERU YESTU YO YU ZEMLJA ZHIVETE)) SMALL(LETTER(AZU BIG(YUS) BUKY CAUDATE(CHRIVI) CHRIVI DJERVI
DOBRO DZELO FITA FRITU GLAGOLI HERU I INITIAL(IZHE) IOTATED(BIG(YUS) SMALL(YUS)) IZHE IZHITSA KAKO
LATINATE(MYSLITE) LJUDIJE MYSLITE NASHI ONU OTU PE POKOJI RITSI SHA SHTA SHTAPIC SLOVO
SMALL(YUS.(WITH(TAIL))) SPIDERY(HA) TROKUTASTI(A) TSI TVRIDO UKU VEDE YATI YERI YERU YESTU YO YU
ZEMLJA ZHIVETE))) GLASS(OF(MILK)) GLEICH(STARK) GLOBE(WITH(MERIDIANS)) GLOVES GLOWING(STAR)
GOAL(NET) GOAT GOGGLES GOLFER GORILLA GOTHIC(LETTER(AHSA AIHVUS BAIRKAN DAGS EIS FAIHU GIBA HAGL
HWAIR IGGWS IUJA JER KUSMA LAGUS MANNA NAUTHS NINE(HUNDRED) NINETY OTHAL PAIRTHRA QAIRTHRA RAIDA
SAUIL TEIWS THIUTH URUS WINJA)) GRADUATION(CAP) GRANTHA(AU(LENGTH(MARK)) LETTER(A AA AI AU BA BHA
CA CHA DA DDA DDHA DHA EE GA GHA HA I II JA JHA KA KHA LA LLA MA NA NGA NNA NYA OO PA PHA RA SA SHA
SSA TA THA TTA TTHA U UU VA VEDIC(ANUSVARA DOUBLE(ANUSVARA)) VOCALIC(L LL R RR) YA) OM
SIGN(ANUSVARA AVAGRAHA CANDRABINDU COMBINING(ANUSVARA(ABOVE)) NUKTA PLUTA VIRAMA VISARGA)
VOWEL(SIGN(AA AI AU EE I II OO U UU VOCALIC(L LL R RR)))) GRAPES GRAVE(ACCENT)
GREATER-THAN(ABOVE(DOUBLE-LINE(EQUAL(ABOVE(LESS-THAN))) LESS-THAN(ABOVE(DOUBLE-LINE(EQUAL)))
RIGHTWARDS(ARROW) SIMILAR(ABOVE(LESS-THAN) OR(EQUAL))
SLANTED(EQUAL(ABOVE(LESS-THAN(ABOVE(SLANTED(EQUAL))))))) AND(NOT(APPROXIMATE)
SINGLE-LINE(NOT(EQUAL(TO)))) BESIDE(LESS-THAN) BUT(NOT(EQUAL(TO) EQUIVALENT(TO)))
CLOSED(BY(CURVE.(ABOVE(SLANTED(EQUAL))))) EQUAL(TO(OR(LESS-THAN))) OR(APPROXIMATE EQUAL(TO)
EQUIVALENT(TO) LESS-THAN SLANTED(EQUAL(TO.(WITH(DOT(ABOVE.(LEFT) INSIDE)))))) OVER(EQUAL(TO))
OVERLAPPING(LESS-THAN) SIGN WITH(CIRCLE(INSIDE) DOT QUESTION(MARK(ABOVE))))
GREEK(ACROPHONIC(ATTIC(FIFTY.(STATERS TALENTS THOUSAND.(STATERS)) FIVE.(HUNDRED.(STATERS TALENTS)
STATERS TALENTS THOUSAND.(TALENTS)) ONE(DRACHMA HALF HUNDRED(STATERS TALENTS) QUARTER
THOUSAND(STATERS TALENTS)) TEN(MNAS STATERS TALENTS THOUSAND(STATERS))) CARYSTIAN(FIVE(HUNDRED))
CYRENAIC(TWO(DRACHMAS)) DELPHIC(FIVE(MNAS)) EPIDAUREAN(FIVE(HUNDRED) TWO.(DRACHMAS))
HERAEUM(ONE(PLETHRON)) HERMIONIAN(FIFTY ONE TEN) MESSENIAN(TEN) NAXIAN(FIVE(HUNDRED))
STRATIAN(FIFTY(MNAS)) THESPIAN(FIFTY FIVE(HUNDRED THOUSAND) ONE.(HUNDRED THOUSAND) TEN THIRTY
THREE(HUNDRED) TWO) TROEZENIAN(FIFTY.(ALTERNATE(FORM)) FIVE.(HUNDRED) TEN.(ALTERNATE(FORM))))
ANO(TELEIA) AROURA(SIGN) ARTABE(SIGN) BETA(SYMBOL) CAPITAL(DOTTED(LUNATE(SIGMA(SYMBOL)))
KAI(SYMBOL) LETTER(ALPHA.(WITH(DASIA.(AND(OXIA.(AND(PROSGEGRAMMENI))
PERISPOMENI.(AND(PROSGEGRAMMENI)) PROSGEGRAMMENI VARIA.(AND(PROSGEGRAMMENI)))) MACRON OXIA
PROSGEGRAMMENI PSILI.(AND(OXIA.(AND(PROSGEGRAMMENI)) PERISPOMENI.(AND(PROSGEGRAMMENI))
PROSGEGRAMMENI VARIA.(AND(PROSGEGRAMMENI)))) TONOS VARIA VRACHY)) ARCHAIC(SAMPI) BETA CHI DELTA
EPSILON.(WITH(DASIA.(AND(OXIA VARIA)) OXIA PSILI.(AND(OXIA VARIA)) TONOS VARIA))
ETA.(WITH(DASIA.(AND(OXIA.(AND(PROSGEGRAMMENI)) PERISPOMENI.(AND(PROSGEGRAMMENI)) PROSGEGRAMMENI
VARIA.(AND(PROSGEGRAMMENI)))) OXIA PROSGEGRAMMENI PSILI.(AND(OXIA.(AND(PROSGEGRAMMENI))
PERISPOMENI.(AND(PROSGEGRAMMENI)) PROSGEGRAMMENI VARIA.(AND(PROSGEGRAMMENI)))) TONOS VARIA)) GAMMA
HETA IOTA.(WITH(DASIA.(AND(OXIA PERISPOMENI VARIA)) DIALYTIKA MACRON OXIA PSILI.(AND(OXIA
PERISPOMENI VARIA)) TONOS VARIA VRACHY)) KAPPA LAMDA MU NU
OMEGA.(WITH(DASIA.(AND(OXIA.(AND(PROSGEGRAMMENI)) PERISPOMENI.(AND(PROSGEGRAMMENI)) PROSGEGRAMMENI
VARIA.(AND(PROSGEGRAMMENI)))) OXIA PROSGEGRAMMENI PSILI.(AND(OXIA.(AND(PROSGEGRAMMENI))
PERISPOMENI.(AND(PROSGEGRAMMENI)) PROSGEGRAMMENI VARIA.(AND(PROSGEGRAMMENI)))) TONOS VARIA))
OMICRON.(WITH(DASIA.(AND(OXIA VARIA)) OXIA PSILI.(AND(OXIA VARIA)) TONOS VARIA))
PAMPHYLIAN(DIGAMMA) PHI PI PSI RHO.(WITH(DASIA)) SAN SHO SIGMA TAU THETA
UPSILON.(WITH(DASIA.(AND(OXIA PERISPOMENI VARIA)) DIALYTIKA MACRON OXIA TONOS VARIA VRACHY)) XI YOT
ZETA) LUNATE(SIGMA(SYMBOL)) REVERSED(DOTTED(LUNATE(SIGMA(SYMBOL))) LUNATE(SIGMA(SYMBOL)))
THETA(SYMBOL)) DASIA.(AND(OXIA PERISPOMENI VARIA)) DIALYTIKA(AND(OXIA PERISPOMENI VARIA) TONOS)
DRACHMA(SIGN) FIVE(OBOLS(SIGN)) FOUR(OBOLS(SIGN)) GRAMMA(SIGN) INDICTION(SIGN)
INSTRUMENTAL(NOTATION(SYMBOL-1 SYMBOL-11 SYMBOL-12 SYMBOL-13 SYMBOL-14 SYMBOL-17 SYMBOL-18
SYMBOL-19 SYMBOL-2 SYMBOL-23 SYMBOL-24 SYMBOL-25 SYMBOL-26 SYMBOL-27 SYMBOL-29 SYMBOL-30 SYMBOL-32
SYMBOL-36 SYMBOL-37 SYMBOL-38 SYMBOL-39 SYMBOL-4 SYMBOL-40 SYMBOL-42 SYMBOL-43 SYMBOL-45 SYMBOL-47
SYMBOL-48 SYMBOL-49 SYMBOL-5 SYMBOL-50 SYMBOL-51 SYMBOL-52 SYMBOL-53 SYMBOL-54 SYMBOL-7 SYMBOL-8))
KAI(SYMBOL) KAPPA(SYMBOL) KORONIS KYATHOS(BASE(SIGN)) LETTER(ARCHAIC(KOPPA) DIGAMMA KOPPA SAMPI
SMALL(CAPITAL(GAMMA LAMDA OMEGA PI PSI RHO)) STIGMA YOT) LITRA(SIGN) LOWER(NUMERAL(SIGN))
LUNATE(EPSILON(SYMBOL) SIGMA(SYMBOL)) METRETES(SIGN) MUSICAL(LEIMMA) NUMERAL(SIGN) OBOL(SIGN)
ONE(HALF(SIGN.(ALTERNATE(FORM))) QUARTER(SIGN)) OUNKIA(SIGN) OXIA PERISPOMENI PHI(SYMBOL)
PI(SYMBOL) PROSGEGRAMMENI PSILI.(AND(OXIA PERISPOMENI VARIA)) QUESTION(MARK)
REVERSED(LUNATE(EPSILON(SYMBOL))) RHO(SYMBOL WITH(STROKE(SYMBOL))) SINUSOID(SIGN)
SMALL(DOTTED(LUNATE(SIGMA(SYMBOL))) LETTER(ALPHA.(WITH(DASIA.(AND(OXIA.(AND(YPOGEGRAMMENI))
PERISPOMENI.(AND(YPOGEGRAMMENI)) VARIA.(AND(YPOGEGRAMMENI)) YPOGEGRAMMENI)) MACRON
OXIA.(AND(YPOGEGRAMMENI)) PERISPOMENI.(AND(YPOGEGRAMMENI)) PSILI.(AND(OXIA.(AND(YPOGEGRAMMENI))
PERISPOMENI.(AND(YPOGEGRAMMENI)) VARIA.(AND(YPOGEGRAMMENI)) YPOGEGRAMMENI)) TONOS
VARIA.(AND(YPOGEGRAMMENI)) VRACHY YPOGEGRAMMENI)) ARCHAIC(KOPPA SAMPI) BETA CHI DELTA DIGAMMA
EPSILON.(WITH(DASIA.(AND(OXIA VARIA)) OXIA PSILI.(AND(OXIA VARIA)) TONOS VARIA))
ETA.(WITH(DASIA.(AND(OXIA.(AND(YPOGEGRAMMENI)) PERISPOMENI.(AND(YPOGEGRAMMENI))
VARIA.(AND(YPOGEGRAMMENI)) YPOGEGRAMMENI)) OXIA.(AND(YPOGEGRAMMENI))
PERISPOMENI.(AND(YPOGEGRAMMENI)) PSILI.(AND(OXIA.(AND(YPOGEGRAMMENI))
PERISPOMENI.(AND(YPOGEGRAMMENI)) VARIA.(AND(YPOGEGRAMMENI)) YPOGEGRAMMENI)) TONOS
VARIA.(AND(YPOGEGRAMMENI)) YPOGEGRAMMENI)) FINAL(SIGMA) GAMMA HETA IOTA.(WITH(DASIA.(AND(OXIA
PERISPOMENI VARIA)) DIALYTIKA.(AND(OXIA PERISPOMENI TONOS VARIA)) MACRON OXIA PERISPOMENI
PSILI.(AND(OXIA PERISPOMENI VARIA)) TONOS VARIA VRACHY)) KAPPA KOPPA LAMDA MU NU
OMEGA.(WITH(DASIA.(AND(OXIA.(AND(YPOGEGRAMMENI)) PERISPOMENI.(AND(YPOGEGRAMMENI))
VARIA.(AND(YPOGEGRAMMENI)) YPOGEGRAMMENI)) OXIA.(AND(YPOGEGRAMMENI))
PERISPOMENI.(AND(YPOGEGRAMMENI)) PSILI.(AND(OXIA.(AND(YPOGEGRAMMENI))
PERISPOMENI.(AND(YPOGEGRAMMENI)) VARIA.(AND(YPOGEGRAMMENI)) YPOGEGRAMMENI)) TONOS
VARIA.(AND(YPOGEGRAMMENI)) YPOGEGRAMMENI)) OMICRON.(WITH(DASIA.(AND(OXIA VARIA)) OXIA
PSILI.(AND(OXIA VARIA)) TONOS VARIA)) PAMPHYLIAN(DIGAMMA) PHI PI PSI RHO.(WITH(DASIA PSILI)) SAMPI
SAN SHO SIGMA STIGMA TAU THETA UPSILON.(WITH(DASIA.(AND(OXIA PERISPOMENI VARIA))
DIALYTIKA.(AND(OXIA PERISPOMENI TONOS VARIA)) MACRON OXIA PERISPOMENI PSILI.(AND(OXIA PERISPOMENI
VARIA)) TONOS VARIA VRACHY)) XI ZETA) REVERSED(DOTTED(LUNATE(SIGMA(SYMBOL)))
LUNATE(SIGMA(SYMBOL)))) SUBSCRIPT(SMALL(LETTER(BETA CHI GAMMA PHI RHO))) SYMBOL(TAU(RHO))
TALENT(SIGN) THETA(SYMBOL) THREE(OBOLS(SIGN) QUARTERS(SIGN)) TONOS TRYBLION(BASE(SIGN))
TWO(OBOLS(SIGN) THIRDS(SIGN)) UPSILON(WITH(ACUTE(AND(HOOK(SYMBOL))) DIAERESIS(AND(HOOK(SYMBOL)))
HOOK(SYMBOL))) VARIA VOCAL(NOTATION(SYMBOL-1 SYMBOL-10 SYMBOL-11 SYMBOL-12 SYMBOL-13 SYMBOL-14
SYMBOL-15 SYMBOL-16 SYMBOL-17 SYMBOL-18 SYMBOL-19 SYMBOL-2 SYMBOL-20 SYMBOL-21 SYMBOL-22 SYMBOL-23
SYMBOL-24 SYMBOL-3 SYMBOL-4 SYMBOL-5 SYMBOL-50 SYMBOL-51 SYMBOL-52 SYMBOL-53 SYMBOL-54 SYMBOL-6
SYMBOL-7 SYMBOL-8 SYMBOL-9)) XESTES(SIGN) YEAR(SIGN) YPOGEGRAMMENI ZERO(SIGN)) GREEN(APPLE BOOK
HEART SALAD) GRIMACING(FACE) GRINNING(CAT(FACE(WITH(SMILING(EYES))))
FACE.(WITH(ONE(LARGE(AND(ONE(SMALL(EYE))))) SMILING(EYES) STAR(EYES)))) GROUP(MARK SEPARATOR)
GROWING(HEART) GS GUARANI(SIGN) GUARDSMAN GUIDE(DOG) GUITAR GUJARATI(ABBREVIATION(SIGN) DIGIT(EIGHT
FIVE FOUR NINE ONE SEVEN SIX THREE TWO ZERO) LETTER(A AA AI AU BA BHA CA CHA DA DDA DDHA DHA E GA
GHA HA I II JA JHA KA KHA LA LLA MA NA NGA NNA NYA O PA PHA RA SA SHA SSA TA THA TTA TTHA U UU VA
VOCALIC(L LL R RR) YA ZHA) OM RUPEE(SIGN) SIGN(ANUSVARA AVAGRAHA CANDRABINDU CIRCLE(NUKTA(ABOVE))
MADDAH NUKTA SHADDA SUKUN THREE-DOT(NUKTA(ABOVE)) TWO-CIRCLE(NUKTA(ABOVE)) VIRAMA VISARGA)
VOWEL(CANDRA(E O) SIGN(AA AI AU CANDRA(E O) E I II O U UU VOCALIC(L LL R RR))))
GUNJALA(GONDI(DIGIT(EIGHT FIVE FOUR NINE ONE SEVEN SIX THREE TWO ZERO) LETTER(A AA AI AU BA BHA CA
CHA DA DDA DDHA DHA EE GA GHA HA I II JA JHA KA KHA LA LLA MA NA NGA OO PA PHA RA SA TA THA TTA
TTHA U UU VA YA) OM SIGN(ANUSVARA VISARGA) VIRAMA VOWEL(SIGN(AA AI AU EE I II OO U UU))))
GURMUKHI(ABBREVIATION(SIGN) ADDAK DIGIT(EIGHT FIVE FOUR NINE ONE SEVEN SIX THREE TWO ZERO)
EK(ONKAR) IRI LETTER(A AA AI AU BA BHA CA CHA DA DDA DDHA DHA EE FA GA GHA GHHA HA I II JA JHA KA
KHA KHHA LA LLA MA NA NGA NNA NYA OO PA PHA RA RRA SA SHA TA THA TTA TTHA U UU VA YA ZA)
SIGN(ADAK(BINDI) BINDI NUKTA UDAAT VIRAMA VISARGA YAKASH) TIPPI URA VOWEL(SIGN(AA AI AU EE I II OO
U UU))) HADES HAIR(SPACE) HAIRCUT HALFWIDTH(BLACK(SQUARE) DOWNWARDS(ARROW) FORMS(LIGHT(VERTICAL))
HANGUL(FILLER LETTER(A AE CHIEUCH CIEUC E EO EU HIEUH I IEUNG KHIEUKH KIYEOK KIYEOK-SIOS MIEUM
NIEUN NIEUN-CIEUC NIEUN-HIEUH O OE PHIEUPH PIEUP PIEUP-SIOS RIEUL RIEUL-HIEUH RIEUL-KIYEOK
RIEUL-MIEUM RIEUL-PHIEUPH RIEUL-PIEUP RIEUL-SIOS RIEUL-THIEUTH SIOS SSANGCIEUC SSANGKIYEOK
SSANGPIEUP SSANGSIOS SSANGTIKEUT THIEUTH TIKEUT U WA WAE WE WEO WI YA YAE YE YEO YI YO YU))
IDEOGRAPHIC(COMMA FULL(STOP)) KATAKANA(LETTER(A E HA HE HI HO HU I KA KE KI KO KU MA ME MI MO MU N
NA NE NI NO NU O RA RE RI RO RU SA SE SI SMALL(A E I O TU U YA YO YU) SO SU TA TE TI TO TU U WA WO
YA YO YU) MIDDLE(DOT) SEMI-VOICED(SOUND(MARK)) VOICED(SOUND(MARK)))
KATAKANA-HIRAGANA(PROLONGED(SOUND(MARK))) LEFT(CORNER(BRACKET)) LEFTWARDS(ARROW)
RIGHT(CORNER(BRACKET)) RIGHTWARDS(ARROW) UPWARDS(ARROW) WHITE(CIRCLE)) HAMBURGER HAMMER.(AND(PICK
SICKLE WRENCH)) HAMSA HAMSTER(FACE) HAND(WITH(INDEX(AND(MIDDLE(FINGERS(CROSSED)))
FINGER(AND(THUMB(CROSSED)))))) HANDBAG HANDBALL HANDSHAKE HANGUL(CHOSEONG(CEONGCHIEUMCHIEUCH
CEONGCHIEUMCIEUC CEONGCHIEUMSIOS CEONGCHIEUMSSANGCIEUC CEONGCHIEUMSSANGSIOS CHIEUCH CHIEUCH-HIEUH
CHIEUCH-KHIEUKH CHITUEUMCHIEUCH CHITUEUMCIEUC CHITUEUMSIOS CHITUEUMSSANGCIEUC CHITUEUMSSANGSIOS
CIEUC CIEUC-IEUNG FILLER HIEUH HIEUH-SIOS IEUNG IEUNG-CHIEUCH IEUNG-CIEUC IEUNG-HIEUH IEUNG-KIYEOK
IEUNG-MIEUM IEUNG-PANSIOS IEUNG-PHIEUPH IEUNG-PIEUP IEUNG-RIEUL IEUNG-SIOS IEUNG-THIEUTH
IEUNG-TIKEUT KAPYEOUNMIEUM KAPYEOUNPHIEUPH KAPYEOUNPIEUP KAPYEOUNRIEUL KAPYEOUNSSANGPIEUP KHIEUKH
KIYEOK KIYEOK-TIKEUT MIEUM MIEUM-KIYEOK MIEUM-PIEUP MIEUM-SIOS MIEUM-TIKEUT NIEUN NIEUN-CIEUC
NIEUN-HIEUH NIEUN-KIYEOK NIEUN-PIEUP NIEUN-SIOS NIEUN-TIKEUT PANSIOS PHIEUPH PHIEUPH-HIEUH
PHIEUPH-PIEUP PIEUP PIEUP-CHIEUCH PIEUP-CIEUC PIEUP-HIEUH PIEUP-KHIEUKH PIEUP-KIYEOK PIEUP-NIEUN
PIEUP-PHIEUPH PIEUP-SIOS PIEUP-SIOS-CIEUC PIEUP-SIOS-KIYEOK PIEUP-SIOS-PIEUP PIEUP-SIOS-THIEUTH
PIEUP-SIOS-TIKEUT PIEUP-SSANGSIOS PIEUP-THIEUTH PIEUP-TIKEUT RIEUL RIEUL-CIEUC RIEUL-HIEUH
RIEUL-KAPYEOUNPIEUP RIEUL-KHIEUKH RIEUL-KIYEOK RIEUL-MIEUM RIEUL-NIEUN RIEUL-PIEUP RIEUL-SIOS
RIEUL-SSANGKIYEOK RIEUL-SSANGPIEUP RIEUL-SSANGTIKEUT RIEUL-TIKEUT SIOS SIOS-CHIEUCH SIOS-CIEUC
SIOS-HIEUH SIOS-IEUNG SIOS-KHIEUKH SIOS-KIYEOK SIOS-MIEUM SIOS-NIEUN SIOS-PHIEUPH SIOS-PIEUP
SIOS-PIEUP-KIYEOK SIOS-RIEUL SIOS-SSANGSIOS SIOS-THIEUTH SIOS-TIKEUT SSANGCIEUC SSANGCIEUC-HIEUH
SSANGHIEUH SSANGIEUNG SSANGKIYEOK SSANGNIEUN SSANGPIEUP SSANGRIEUL SSANGSIOS SSANGSIOS-PIEUP
SSANGTHIEUTH SSANGTIKEUT SSANGYEORINHIEUH THIEUTH TIKEUT TIKEUT-CIEUC TIKEUT-KIYEOK TIKEUT-MIEUM
TIKEUT-PIEUP TIKEUT-RIEUL TIKEUT-SIOS YEORINHIEUH YESIEUNG) DOUBLE(DOT(TONE(MARK))) FILLER
JONGSEONG(CHIEUCH CIEUC CIEUC-PIEUP CIEUC-SSANGPIEUP HIEUH HIEUH-MIEUM HIEUH-NIEUN HIEUH-PIEUP
HIEUH-RIEUL IEUNG IEUNG-KHIEUKH IEUNG-KIYEOK IEUNG-SSANGKIYEOK KAPYEOUNMIEUM KAPYEOUNPHIEUPH
KAPYEOUNPIEUP KAPYEOUNRIEUL KHIEUKH KIYEOK KIYEOK-CHIEUCH KIYEOK-HIEUH KIYEOK-KHIEUKH KIYEOK-NIEUN
KIYEOK-PIEUP KIYEOK-RIEUL KIYEOK-SIOS KIYEOK-SIOS-KIYEOK MIEUM MIEUM-CHIEUCH MIEUM-CIEUC
MIEUM-HIEUH MIEUM-KIYEOK MIEUM-NIEUN MIEUM-PANSIOS MIEUM-PIEUP MIEUM-PIEUP-SIOS MIEUM-RIEUL
MIEUM-SIOS MIEUM-SSANGNIEUN MIEUM-SSANGSIOS NIEUN NIEUN-CHIEUCH NIEUN-CIEUC NIEUN-HIEUH
NIEUN-KIYEOK NIEUN-PANSIOS NIEUN-RIEUL NIEUN-SIOS NIEUN-THIEUTH NIEUN-TIKEUT PANSIOS
PANSIOS-KAPYEOUNPIEUP PANSIOS-PIEUP PHIEUPH PHIEUPH-PIEUP PHIEUPH-SIOS PHIEUPH-THIEUTH PIEUP
PIEUP-CHIEUCH PIEUP-CIEUC PIEUP-HIEUH PIEUP-MIEUM PIEUP-PHIEUPH PIEUP-RIEUL PIEUP-RIEUL-PHIEUPH
PIEUP-SIOS PIEUP-SIOS-TIKEUT PIEUP-TIKEUT RIEUL RIEUL-HIEUH RIEUL-KAPYEOUNPIEUP RIEUL-KHIEUKH
RIEUL-KIYEOK RIEUL-KIYEOK-HIEUH RIEUL-KIYEOK-SIOS RIEUL-MIEUM RIEUL-MIEUM-HIEUH RIEUL-MIEUM-KIYEOK
RIEUL-MIEUM-SIOS RIEUL-NIEUN RIEUL-PANSIOS RIEUL-PHIEUPH RIEUL-PIEUP RIEUL-PIEUP-HIEUH
RIEUL-PIEUP-PHIEUPH RIEUL-PIEUP-SIOS RIEUL-PIEUP-TIKEUT RIEUL-SIOS RIEUL-SSANGKIYEOK
RIEUL-SSANGSIOS RIEUL-THIEUTH RIEUL-TIKEUT RIEUL-TIKEUT-HIEUH RIEUL-YEORINHIEUH
RIEUL-YEORINHIEUH-HIEUH RIEUL-YESIEUNG SIOS SIOS-CHIEUCH SIOS-CIEUC SIOS-HIEUH SIOS-KAPYEOUNPIEUP
SIOS-KIYEOK SIOS-MIEUM SIOS-PANSIOS SIOS-PIEUP SIOS-RIEUL SIOS-THIEUTH SIOS-TIKEUT SSANGCIEUC
SSANGIEUNG SSANGKIYEOK SSANGMIEUM SSANGNIEUN SSANGPIEUP SSANGRIEUL SSANGRIEUL-KHIEUKH SSANGSIOS
SSANGSIOS-KIYEOK SSANGSIOS-TIKEUT SSANGTIKEUT SSANGTIKEUT-PIEUP SSANGYESIEUNG THIEUTH TIKEUT
TIKEUT-CHIEUCH TIKEUT-CIEUC TIKEUT-KIYEOK TIKEUT-PIEUP TIKEUT-RIEUL TIKEUT-SIOS TIKEUT-SIOS-KIYEOK
TIKEUT-THIEUTH YEORINHIEUH YESIEUNG YESIEUNG-HIEUH YESIEUNG-KHIEUKH YESIEUNG-KIYEOK YESIEUNG-MIEUM
YESIEUNG-PANSIOS YESIEUNG-SIOS YESIEUNG-SSANGKIYEOK) JUNGSEONG(A A-EU A-O A-U AE ARAEA ARAEA-A
ARAEA-E ARAEA-EO ARAEA-I ARAEA-U E EO EO-EU EO-O EO-U EU EU-A EU-E EU-EO EU-EU EU-O EU-U FILLER I
I-A I-ARAEA I-EU I-I I-O I-O-I I-U I-YA I-YA-O I-YAE I-YE I-YEO I-YO I-YU O O-E O-EO O-O O-O-I O-U
O-YA O-YAE O-YE O-YEO OE SSANGARAEA U U-A U-AE U-EO-EU U-I-I U-U U-YE U-YEO WA WAE WE WEO WI YA
YA-O YA-U YA-YO YAE YE YEO YEO-O YEO-U YEO-YA YI YI-U YO YO-A YO-AE YO-EO YO-I YO-O YO-YA YO-YAE
YO-YEO YU YU-A YU-AE YU-E YU-EO YU-I YU-O YU-U YU-YE YU-YEO) LETTER(A AE ARAEA ARAEAE CHIEUCH CIEUC
E EO EU HIEUH I IEUNG KAPYEOUNMIEUM KAPYEOUNPHIEUPH KAPYEOUNPIEUP KAPYEOUNSSANGPIEUP KHIEUKH KIYEOK
KIYEOK-SIOS MIEUM MIEUM-PANSIOS MIEUM-PIEUP MIEUM-SIOS NIEUN NIEUN-CIEUC NIEUN-HIEUH NIEUN-PANSIOS
NIEUN-SIOS NIEUN-TIKEUT O OE PANSIOS PHIEUPH PIEUP PIEUP-CIEUC PIEUP-KIYEOK PIEUP-SIOS
PIEUP-SIOS-KIYEOK PIEUP-SIOS-TIKEUT PIEUP-THIEUTH PIEUP-TIKEUT RIEUL RIEUL-HIEUH RIEUL-KIYEOK
RIEUL-KIYEOK-SIOS RIEUL-MIEUM RIEUL-PANSIOS RIEUL-PHIEUPH RIEUL-PIEUP RIEUL-PIEUP-SIOS RIEUL-SIOS
RIEUL-THIEUTH RIEUL-TIKEUT RIEUL-YEORINHIEUH SIOS SIOS-CIEUC SIOS-KIYEOK SIOS-NIEUN SIOS-PIEUP
SIOS-TIKEUT SSANGCIEUC SSANGHIEUH SSANGIEUNG SSANGKIYEOK SSANGNIEUN SSANGPIEUP SSANGSIOS
SSANGTIKEUT THIEUTH TIKEUT U WA WAE WE WEO WI YA YAE YE YEO YEORINHIEUH YESIEUNG YESIEUNG-PANSIOS
YESIEUNG-SIOS YI YO YO-I YO-YA YO-YAE YU YU-I YU-YE YU-YEO) SINGLE(DOT(TONE(MARK))))
HANGZHOU(NUMERAL(EIGHT FIVE FOUR NINE ONE SEVEN SIX TEN THIRTY THREE TWENTY TWO))
HANIFI(ROHINGYA(DIGIT(EIGHT FIVE FOUR NINE ONE SEVEN SIX THREE TWO ZERO) LETTER(A BA CA DA DDA FA
GA HA JA KA KHA KINNA(WA YA) LA MA NA NGA NYA PA RA RRA SA SHA TA TTA VA WA YA ZA) MARK(NA(KHONNA)
SAKIN) SIGN(HARBAHAY TAHALA TANA TASSI) VOWEL(A E I O U))) HANUNOO(LETTER(A BA DA GA HA I KA LA MA
NA NGA PA RA SA TA U WA YA) SIGN(PAMUDPOD) VOWEL(SIGN(I U))) HAPPY(PERSON(RAISING(ONE(HAND))))
HARD(DISK) HATCHING(CHICK) HATRAN(LETTER(ALEPH AYN BETH DALETH-RESH GIMEL HE HETH KAPH LAMEDH MEM
NUN PE QOPH SADHE SAMEKH SHIN TAW TETH WAW YODH ZAYN) NUMBER(FIVE ONE.(HUNDRED) TEN TWENTY))
HEADPHONE HEADSTONE.(GRAVEYARD(SYMBOL)) HEAR-NO-EVIL(MONKEY) HEART(DECORATION HANDS WITH(ARROW
RIBBON TIP(ON(THE(LEFT))))) HEAVY(AMPERSAND(ORNAMENT) ARROW(SHAFT(WIDTH(ONE.(HALF THIRD)
TWO(THIRDS)))) ASTERISK BALLOT(X) BLACK(CURVED(DOWNWARDS(AND(RIGHTWARDS(ARROW)))
UPWARDS(AND(RIGHTWARDS(ARROW)))) HEART) BLACK-FEATHERED(NORTH(EAST(ARROW)) RIGHTWARDS(ARROW)
SOUTH(EAST(ARROW))) CHECK(MARK) CHEVRON(SNOWFLAKE) CIRCLE.(WITH(CIRCLE(INSIDE)
STROKE(AND(TWO(DOTS(ABOVE)))))) CIRCLED(SALTIRE) CONCAVE-POINTED(BLACK(RIGHTWARDS(ARROW)))
DASHED(TRIANGLE-HEADED(RIGHTWARDS(ARROW))) DIVISION(SIGN) DOLLAR(SIGN)
DOUBLE(COMMA(QUOTATION(MARK(ORNAMENT))) TURNED(COMMA(QUOTATION(MARK(ORNAMENT)))))
DOWNWARDS(ARROW(WITH(EQUILATERAL(ARROWHEAD) LARGE(EQUILATERAL(ARROWHEAD)))))
EIGHT(POINTED(BLACK(STAR) PINWHEEL(STAR) RECTILINEAR(BLACK(STAR))) SPOKED(ASTERISK)
TEARDROP-SPOKED(PROPELLER(ASTERISK))) EQUALS(SIGN) EXCLAMATION(MARK(ORNAMENT SYMBOL))
FIVE(POINTED(BLACK(STAR)) SPOKED(ASTERISK)) FOUR(BALLOON-SPOKED(ASTERISK)) GREEK(CROSS)
HEART(EXCLAMATION(MARK(ORNAMENT))) HORIZONTAL(FILL) INTERROBANG(ORNAMENT) LARGE(CIRCLE)
LATIN(CROSS) LEFT-POINTING(ANGLE(BRACKET(ORNAMENT) QUOTATION(MARK(ORNAMENT))))
LEFTWARDS(ARROW(WITH(EQUILATERAL(ARROWHEAD) LARGE(EQUILATERAL(ARROWHEAD)))))
LIGATURE(OPEN(ET(ORNAMENT))) LOW(DOUBLE(COMMA(QUOTATION(MARK(ORNAMENT))))
SINGLE(COMMA(QUOTATION(MARK(ORNAMENT))))) LOWER(RIGHT-SHADOWED(WHITE(RIGHTWARDS(ARROW))))
MINUS(SIGN) MULTIPLICATION(X) NORTH(EAST(ARROW POINTING(BUD VINE(LEAF))) WEST(POINTING(BUD
VINE(LEAF)))) OPEN(CENTRE(CROSS)) OUTLINED(BLACK(STAR)) OVAL(WITH(OVAL(INSIDE))) PLUS(SIGN)
RIGHT-POINTING(ANGLE(BRACKET(ORNAMENT) QUOTATION(MARK(ORNAMENT))))
RIGHTWARDS(ARROW.(WITH(EQUILATERAL(ARROWHEAD) LARGE(EQUILATERAL(ARROWHEAD)))))
ROUND-TIPPED(RIGHTWARDS(ARROW)) SALTIRE SANS-SERIF(INTERROBANG(ORNAMENT))
SCRIPT(LIGATURE(ET(ORNAMENT))) SINGLE(COMMA(QUOTATION(MARK(ORNAMENT)))
TURNED(COMMA(QUOTATION(MARK(ORNAMENT))))) SIX(POINTED(BLACK(STAR)) SPOKED(ASTERISK))
SOUTH(EAST(ARROW POINTING(BUD VINE(LEAF))) WEST(POINTING(BUD VINE(LEAF)))) SPARKLE
TEARDROP-SHANKED(RIGHTWARDS(ARROW)) TEARDROP-SPOKED(ASTERISK PINWHEEL(ASTERISK))
TRIANGLE-HEADED(RIGHTWARDS(ARROW)) TWELVE(POINTED(BLACK(STAR) PINWHEEL(STAR)))
UPPER(RIGHT-SHADOWED(WHITE(RIGHTWARDS(ARROW)))) UPWARDS(ARROW(WITH(EQUILATERAL(ARROWHEAD)
LARGE(EQUILATERAL(ARROWHEAD))))) VERTICAL(BAR) WEDGE-TAILED(RIGHTWARDS(ARROW)) WHITE(CIRCLE
DOWN-POINTING(TRIANGLE) SQUARE) WIDE-HEADED(RIGHTWARDS(ARROW))) HEBREW(ACCENT(ATNAH(HAFUKH) DARGA
DEHI ETNAHTA GERESH.(MUQDAM) GERSHAYIM ILUY MAHAPAKH MERKHA.(KEFULA) MUNAH OLE PASHTA PAZER QADMA
QARNEY(PARA) REVIA SEGOL SHALSHELET TELISHA(GEDOLA QETANA) TEVIR TIPEHA YERAH(BEN(YOMO)) YETIV
ZAQEF(GADOL QATAN) ZARQA ZINOR) LETTER(ALEF.(WITH(MAPIQ PATAH QAMATS)) ALTERNATIVE(AYIN PLUS(SIGN))
AYIN BET.(WITH(DAGESH RAFE)) DALET.(WITH(DAGESH)) FINAL(KAF.(WITH(DAGESH)) MEM NUN
PE.(WITH(DAGESH)) TSADI) GIMEL.(WITH(DAGESH)) HE.(WITH(MAPIQ)) HET KAF.(WITH(DAGESH RAFE))
LAMED.(WITH(DAGESH)) MEM.(WITH(DAGESH)) NUN.(WITH(DAGESH)) PE.(WITH(DAGESH RAFE))
QOF.(WITH(DAGESH)) RESH.(WITH(DAGESH)) SAMEKH.(WITH(DAGESH)) SHIN.(WITH(DAGESH.(AND(SHIN(DOT)
SIN(DOT))) SHIN(DOT) SIN(DOT))) TAV.(WITH(DAGESH)) TET.(WITH(DAGESH)) TSADI.(WITH(DAGESH))
VAV.(WITH(DAGESH HOLAM)) WIDE(ALEF DALET FINAL(MEM) HE KAF LAMED RESH TAV) YOD.(WITH(DAGESH HIRIQ))
ZAYIN.(WITH(DAGESH))) LIGATURE(ALEF(LAMED) YIDDISH(DOUBLE(VAV YOD) VAV(YOD) YOD(YOD(PATAH))))
MARK(LOWER(DOT) MASORA(CIRCLE) UPPER(DOT)) POINT(DAGESH(OR(MAPIQ)) HATAF(PATAH QAMATS SEGOL) HIRIQ
HOLAM.(HASER(FOR(VAV))) JUDEO-SPANISH(VARIKA) METEG PATAH QAMATS.(QATAN) QUBUTS RAFE SEGOL SHEVA
SHIN(DOT) SIN(DOT) TSERE) PUNCTUATION(GERESH GERSHAYIM MAQAF NUN(HAFUKHA) PASEQ SOF(PASUQ))
YOD(TRIANGLE)) HEDGEHOG HELICOPTER HELLSCHREIBER(PAUSE(SYMBOL)) HELM(SYMBOL)
HELMET(WITH(WHITE(CROSS))) HENTAIGANA(LETTER(A-1 A-2 A-3 A-WO E-1 E-2 E-3 E-4 E-5 E-6 HA-1 HA-10
HA-11 HA-2 HA-3 HA-4 HA-5 HA-6 HA-7 HA-8 HA-9 HE-1 HE-2 HE-3 HE-4 HE-5 HE-6 HE-7 HI-1 HI-2 HI-3
HI-4 HI-5 HI-6 HI-7 HO-1 HO-2 HO-3 HO-4 HO-5 HO-6 HO-7 HO-8 HU-1 HU-2 HU-3 I-1 I-2 I-3 I-4 KA-1
KA-10 KA-11 KA-2 KA-3 KA-4 KA-5 KA-6 KA-7 KA-8 KA-9 KA-KE KE-1 KE-2 KE-3 KE-4 KE-5 KE-6 KI-1 KI-2
KI-3 KI-4 KI-5 KI-6 KI-7 KI-8 KO-1 KO-2 KO-3 KO-KI KU-1 KU-2 KU-3 KU-4 KU-5 KU-6 KU-7 MA-1 MA-2
MA-3 MA-4 MA-5 MA-6 MA-7 ME-1 ME-2 ME-MA MI-1 MI-2 MI-3 MI-4 MI-5 MI-6 MI-7 MO-1 MO-2 MO-3 MO-4
MO-5 MO-6 MU-1 MU-2 MU-3 MU-4 N-MU-MO-1 N-MU-MO-2 NA-1 NA-2 NA-3 NA-4 NA-5 NA-6 NA-7 NA-8 NA-9 NE-1
NE-2 NE-3 NE-4 NE-5 NE-6 NE-KO NI-1 NI-2 NI-3 NI-4 NI-5 NI-6 NI-7 NI-TE NO-1 NO-2 NO-3 NO-4 NO-5
NU-1 NU-2 NU-3 O-1 O-2 O-3 RA-1 RA-2 RA-3 RA-4 RE-1 RE-2 RE-3 RE-4 RI-1 RI-2 RI-3 RI-4 RI-5 RI-6
RI-7 RO-1 RO-2 RO-3 RO-4 RO-5 RO-6 RU-1 RU-2 RU-3 RU-4 RU-5 RU-6 SA-1 SA-2 SA-3 SA-4 SA-5 SA-6 SA-7
SA-8 SE-1 SE-2 SE-3 SE-4 SE-5 SI-1 SI-2 SI-3 SI-4 SI-5 SI-6 SO-1 SO-2 SO-3 SO-4 SO-5 SO-6 SO-7 SU-1
SU-2 SU-3 SU-4 SU-5 SU-6 SU-7 SU-8 TA-1 TA-2 TA-3 TA-4 TE-1 TE-2 TE-3 TE-4 TE-5 TE-6 TE-7 TE-8 TE-9
TI-1 TI-2 TI-3 TI-4 TI-5 TI-6 TI-7 TO-1 TO-2 TO-3 TO-4 TO-5 TO-6 TO-RA TU-1 TU-2 TU-3 TU-4 TU-TO
U-1 U-2 U-3 U-4 U-5 WA-1 WA-2 WA-3 WA-4 WA-5 WE-1 WE-2 WE-3 WE-4 WI-1 WI-2 WI-3 WI-4 WI-5 WO-1 WO-2
WO-3 WO-4 WO-5 WO-6 WO-7 YA-1 YA-2 YA-3 YA-4 YA-5 YA-YO YO-1 YO-2 YO-3 YO-4 YO-5 YO-6 YU-1 YU-2
YU-3 YU-4)) HERB HERMITIAN(CONJUGATE(MATRIX)) HEXAGRAM(FOR(ABUNDANCE AFTER(COMPLETION) APPROACH
BEFORE(COMPLETION) BITING(THROUGH) BREAKTHROUGH COMING(TO(MEET)) CONFLICT CONTEMPLATION
DARKENING(OF(THE(LIGHT))) DECREASE DELIVERANCE DEVELOPMENT DIFFICULTY(AT(THE(BEGINNING)))
DISPERSION DURATION ENTHUSIASM FELLOWSHIP FOLLOWING GATHERING(TOGETHER) GRACE GREAT(POSSESSION
POWER PREPONDERANCE TAMING) HOLDING(TOGETHER) INCREASE INFLUENCE INNER(TRUTH) INNOCENCE LIMITATION
MODESTY MOUTH(CORNERS) OBSTRUCTION OPPOSITION OPPRESSION PEACE PROGRESS PUSHING(UPWARD) RETREAT
RETURN REVOLUTION SMALL(PREPONDERANCE TAMING) SPLITTING(APART) STANDSTILL THE(ABYSMAL(WATER) ARMY
AROUSING(THUNDER) CAULDRON CLINGING(FIRE) CREATIVE(HEAVEN) FAMILY GENTLE(WIND) JOYOUS(LAKE)
KEEPING(STILL(MOUNTAIN)) MARRYING(MAIDEN) RECEPTIVE(EARTH) WANDERER WELL) TREADING WAITING
WORK(ON(THE(DECAYED))) YOUTHFUL(FOLLY))) HIBISCUS HIGH(BRIGHTNESS(SYMBOL) OCTET(PRESET)
VOLTAGE(SIGN)) HIGH-HEELED(SHOE) HIGH-SPEED(TRAIN.(WITH(BULLET(NOSE)))) HIKING(BOOT) HINDU(TEMPLE)
HIPPOPOTAMUS HIRAGANA(DIGRAPH(YORI) ITERATION(MARK) LETTER(A ARCHAIC(WU YE) BA BE BI BO BU DA DE DI
DO DU E GA GE GI GO GU HA HE HI HO HU I KA KE KI KO KU MA ME MI MO MU N NA NE NI NO NU O PA PE PI
PO PU RA RE RI RO RU SA SE SI SMALL(A E I KA KE O TU U WA WE WI WO YA YO YU) SO SU TA TE TI TO TU U
VU WA WE WI WO YA YO YU ZA ZE ZI ZO ZU) VOICED(ITERATION(MARK))) HISTORIC(SITE) HOCHO HOLE
HOLLOW(QUILT(SQUARE(ORNAMENT.(IN(BLACK(SQUARE)))))) HOMOTHETIC HONEY(POT) HONEYBEE HOOK HOP
HORIZONTAL(BAR BLACK(HEXAGON OCTAGON) ELLIPSIS LINE(EXTENSION) MALE(WITH(STROKE(SIGN)))
ONE(EIGHTH(BLOCK-1358 BLOCK-2 BLOCK-3 BLOCK-4 BLOCK-5 BLOCK-6 BLOCK-7)) SCAN(LINE-1 LINE-3 LINE-7
LINE-9) TAB(KEY) TABULATION.(SET WITH(JUSTIFICATION)) TRAFFIC(LIGHT)) HORSE.(FACE RACING) HOSPITAL
HOT(BEVERAGE DOG PEPPER SPRINGS) HOTEL HOURGLASS.(WITH(FLOWING(SAND))) HOUSE.(BUILDING BUILDINGS
WITH(GARDEN)) HRYVNIA(SIGN) HT HTJ HTS HUGGING(FACE) HUNDRED(POINTS(SYMBOL)) HUSHED(FACE) HUT
HYGIEA HYPHEN.(BULLET WITH(DIAERESIS)) HYPHEN-MINUS HYPHENATION(POINT) HYPODIASTOLE
HYSTERESIS(SYMBOL) I(LOVE(YOU(HAND(SIGN)))) ICE(CREAM CUBE HOCKEY(STICK(AND(PUCK))) SKATE)
IDENTICAL(TO.(AND(SLANTED(PARALLEL))) WITH(DOT(ABOVE))) IDENTIFICATION(CARD)
IDEOGRAPHIC(ANNOTATION(BOTTOM(MARK) EARTH(MARK) FIRST(MARK) FOUR(MARK) FOURTH(MARK) HEAVEN(MARK)
LINKING(MARK) MAN(MARK) MIDDLE(MARK) ONE(MARK) REVERSE(MARK) SECOND(MARK) THIRD(MARK) THREE(MARK)
TOP(MARK) TWO(MARK)) CLOSING(MARK) COMMA DEPARTING(TONE(MARK)) DESCRIPTION(CHARACTER(ABOVE(TO(BELOW
MIDDLE(AND(BELOW)))) FULL(SURROUND) LEFT(TO(MIDDLE(AND(RIGHT)) RIGHT)) OVERLAID SURROUND(FROM(ABOVE
BELOW LEFT LOWER(LEFT) UPPER(LEFT RIGHT))))) ENTERING(TONE(MARK)) FULL(STOP) HALF(FILL(SPACE))
ITERATION(MARK) LEVEL(TONE(MARK)) NUMBER(ZERO) RISING(TONE(MARK)) SPACE TALLY(MARK(FIVE FOUR ONE
THREE TWO)) TELEGRAPH(LINE(FEED(SEPARATOR(SYMBOL))) SYMBOL(FOR(APRIL AUGUST DAY(EIGHT EIGHTEEN
ELEVEN FIFTEEN FIVE FOUR FOURTEEN NINE NINETEEN ONE SEVEN SEVENTEEN SIX SIXTEEN TEN THIRTEEN THIRTY
THIRTY-ONE THREE TWELVE TWENTY TWENTY-EIGHT TWENTY-FIVE TWENTY-FOUR TWENTY-NINE TWENTY-ONE
TWENTY-SEVEN TWENTY-SIX TWENTY-THREE TWENTY-TWO TWO) DECEMBER FEBRUARY HOUR(EIGHT EIGHTEEN ELEVEN
FIFTEEN FIVE FOUR FOURTEEN NINE NINETEEN ONE SEVEN SEVENTEEN SIX SIXTEEN TEN THIRTEEN THREE TWELVE
TWENTY TWENTY-FOUR TWENTY-ONE TWENTY-THREE TWENTY-TWO TWO ZERO) JANUARY JULY JUNE MARCH MAY
NOVEMBER OCTOBER SEPTEMBER))) VARIATION(INDICATOR)) IMAGE(OF.(OR(APPROXIMATELY(EQUAL(TO))))) IMP
IMPERIAL(ARAMAIC(LETTER(ALEPH AYIN BETH DALETH GIMEL HE HETH KAPH LAMEDH MEM NUN PE QOPH RESH SADHE
SAMEKH SHIN TAW TETH WAW YODH ZAYIN) NUMBER(ONE.(HUNDRED THOUSAND) TEN.(THOUSAND) THREE TWENTY TWO)
SECTION(SIGN))) INBOX(TRAY) INCOMING(ENVELOPE) INCOMPLETE(INFINITY) INCREASE(FONT(SIZE(SYMBOL)))
INCREASES(AS) INCREMENT IND INDEX.(POINTING(AT(THE(VIEWER)))) INDIAN(RUPEE(SIGN))
INDIC(SIYAQ(ALTERNATE(LAKH(MARK)) FRACTION(ONE(HALF QUARTER) THREE(QUARTERS)) LAKH(MARK)
NUMBER(ALTERNATE(ONE TEN(THOUSAND) TWO) EIGHT.(HUNDRED THOUSAND) EIGHTY.(THOUSAND) FIFTY.(THOUSAND)
FIVE.(HUNDRED THOUSAND) FORTY.(THOUSAND) FOUR.(HUNDRED THOUSAND) KAROR KARORAN LAKH LAKHAN
NINE.(HUNDRED THOUSAND) NINETY.(THOUSAND) ONE.(HUNDRED THOUSAND) PREFIXED(EIGHT FIVE FOUR NINE ONE
SEVEN SIX THREE TWO) SEVEN.(HUNDRED THOUSAND) SEVENTY.(THOUSAND) SIX.(HUNDRED THOUSAND)
SIXTY.(THOUSAND) TEN.(THOUSAND) THIRTY.(THOUSAND) THREE.(HUNDRED THOUSAND) TWENTY.(THOUSAND)
TWO.(HUNDRED THOUSAND)) PLACEHOLDER RUPEE(MARK))) INFINITY.(NEGATED(WITH(VERTICAL(BAR))))
INFORMATION(DESK(PERSON) SEPARATOR(FOUR ONE THREE TWO) SOURCE) INHIBIT(ARABIC(FORM(SHAPING))
SYMMETRIC(SWAPPING)) INPUT(SYMBOL(FOR(LATIN(CAPITAL(LETTERS) LETTERS SMALL(LETTERS)) NUMBERS
SYMBOLS))) INSCRIPTIONAL(PAHLAVI(LETTER(ALEPH BETH DALETH GIMEL HE HETH KAPH LAMEDH MEM-QOPH NUN PE
SADHE SAMEKH SHIN TAW TETH WAW-AYIN-RESH YODH ZAYIN) NUMBER(FOUR ONE.(HUNDRED THOUSAND) TEN THREE
TWENTY TWO)) PARTHIAN(LETTER(ALEPH AYIN BETH DALETH GIMEL HE HETH KAPH LAMEDH MEM NUN PE QOPH RESH
SADHE SAMEKH SHIN TAW TETH WAW YODH ZAYIN) NUMBER(FOUR ONE.(HUNDRED THOUSAND) TEN THREE TWENTY
TWO))) INSERTION(SYMBOL) INTEGRAL.(AROUND(A(POINT(OPERATOR))) AVERAGE(WITH(SLASH)) EXTENSION
WITH(DOUBLE(STROKE) INTERSECTION LEFTWARDS(ARROW(WITH(HOOK))) OVERBAR TIMES(SIGN) UNDERBAR UNION))
INTERCALATE INTERIOR(PRODUCT) INTERLINEAR(ANNOTATION(ANCHOR SEPARATOR TERMINATOR))
INTERLOCKED(FEMALE(AND(MALE(SIGN)))) INTERROBANG INTERSECTION.(ABOVE(BAR(ABOVE(UNION)) UNION)
BESIDE(AND(JOINED(WITH(INTERSECTION)))) WITH(DOT LOGICAL(AND) OVERBAR)) INVERSE(BULLET CHECK(MARK)
CHECKER(BOARD(FILL)) DOWNWARDS(ARROW(WITH(TIP(LEFTWARDS)))) MEDIUM(SHADE) WHITE(CIRCLE))
INVERTED(EXCLAMATION(MARK) INTERROBANG LAZY(S) LOW(KAVYKA.(WITH(KAVYKA(ABOVE)))) OHM(SIGN)
PENTAGRAM QUESTION(MARK) UNDERTIE) INVISIBLE(PLUS SEPARATOR TIMES) IZAKAYA(LANTERN) JACK-O-LANTERN
JAPANESE(BANK(SYMBOL) CASTLE DOLLS GOBLIN INDUSTRIAL(STANDARD(SYMBOL)) OGRE POST(OFFICE)
SYMBOL(FOR(BEGINNER))) JAR JAVANESE(CONSONANT(SIGN(CAKRA KERET PENGKAL)) DIGIT(EIGHT FIVE FOUR NINE
ONE SEVEN SIX THREE TWO ZERO) LEFT(RERENGGAN) LETTER(A AI BA.(MURDA) CA.(MURDA) DA.(MAHAPRANA)
DDA.(MAHAPRANA) E GA.(MURDA) HA I.(KAWI) II JA.(MAHAPRANA) KA.(MURDA SASAK) LA MA NA.(MURDA)
NGA.(LELET.(RASWADI)) NYA.(MURDA) O PA.(CEREK MURDA) RA.(AGUNG) SA.(MAHAPRANA MURDA) TA.(MURDA)
TTA.(MAHAPRANA) U WA YA) PADA(ADEG.(ADEG) ANDAP ISEN-ISEN LINGSA LUHUR LUNGSI MADYA PANGKAT PISELEH
TIRTA(TUMETES) WINDU) PANGKON PANGRANGKEP RIGHT(RERENGGAN) SIGN(CECAK.(TELU) LAYAR PANYANGGA
WIGNYAN) TURNED(PADA(PISELEH)) VOWEL(SIGN(DIRGA(MURE) PEPET SUKU.(MENDUT) TALING TARUNG TOLONG
WULU.(MELIK)))) JEANS JIGSAW(PUZZLE(PIECE)) JOIN JOYSTICK JUGGLING JUNO JUPITER KAABA
KAITHI(ABBREVIATION(SIGN) DANDA DOUBLE(DANDA SECTION(MARK)) ENUMERATION(SIGN) LETTER(A AA AI AU BA
BHA CA CHA DA DDA DDDHA DDHA DHA E GA GHA HA I II JA JHA KA KHA LA MA NA NGA NNA NYA O PA PHA RA
RHA SA SHA SSA TA THA TTA TTHA U UU VA YA) NUMBER(SIGN.(ABOVE)) SECTION(MARK) SIGN(ANUSVARA
CANDRABINDU NUKTA VIRAMA VISARGA) VOWEL(SIGN(AA AI AU E I II O U UU VOCALIC(R)))) KANGAROO
KANGXI(RADICAL(AGAIN AND ARRIVE ARROW AXE BADGER BAMBOO BEAN BIG BIRD BITTER BLACK BLOOD BLUE BOAT
BODY BOLT(OF(CLOTH)) BONE BOW BRANCH BRISTLE BRUSH CART CAULDRON CAVE CHILD CITY CLAN CLAW CLIFF
CLOTHES COLOR COMPARE CORPSE COVER COW DEATH DEER DIPPER DISH DISTINGUISH DIVINATION DO(NOT) DOG
DOOR DOT DOTTED(CLIFF TENT) DOUBLE(X) DOWN(BOX) DRAGON DRUM DRY EAR EARTH EAT EIGHT EMBROIDERY
ENCLOSURE ENTER EVEN EVENING EYE FACE FANG FATHER FEATHER FIELD FIGHT FIRE FISH FLUTE FLY FOOT
FRAGRANT FROG FUR GATE GHOST GO.(SLOWLY) GOLD GRAIN GRASS HAIR HALBERD HALF(TREE(TRUNK)) HAND HEAD
HEART HEMP HIDING(ENCLOSURE) HOOK HORN HORSE ICE INCH INSECT JADE JAR KNIFE LACK LAME LEAF LEATHER
LEEK LEGS LID LIFE LINE LONG.(STRIDE) MAN MEAT MELON MILLET MINISTER MOON MORNING MORTAR MOUND
MOUNTAIN MOUTH NET NOSE NOT OLD ONE ONESELF OPEN(BOX) OPPOSE PIG PLOW POWER PRIVATE PROFOUND RAIN
RAP RAT RED RICE RIGHT(OPEN(BOX)) RIVER ROOF RUN SACRIFICIAL(WINE) SALT SAY SCHOLAR SCRIPT SEAL
SECOND SEE SELF SHEEP SHELL SHOOT SHORT(TAILED(BIRD) THREAD) SICKNESS SILK SKIN SLASH SLAVE SLICE
SMALL SNOUT SOUND SPEAR SPEECH SPIRIT SPOON SPROUT SQUARE STAND STEAM STEP STONE STOP STOPPING SUN
SWEET TABLE TALL TANNED(LEATHER) TEN TIGER TILE TONGUE TOOTH TRACK TREE TRIPOD TURBAN TURTLE
TWO.(HANDS) USE VALLEY VILLAGE WALK.(ENCLOSURE) WATER WEAPON WEST WHEAT WHITE WIND WINE WOMAN WORK
WRAP WRONG YELLOW)) KANNADA(AI(LENGTH(MARK)) DIGIT(EIGHT FIVE FOUR NINE ONE SEVEN SIX THREE TWO
ZERO) LENGTH(MARK) LETTER(A AA AI AU BA BHA CA CHA DA DDA DDHA DHA E EE FA GA GHA HA I II JA JHA KA
KHA LA LLA LLLA MA NA NAKAARA(POLLU) NGA NNA NYA O OO PA PHA RA RRA SA SHA SSA TA THA TTA TTHA U UU
VA VOCALIC(L LL R RR) YA) SIGN(ANUSVARA AVAGRAHA CANDRABINDU JIHVAMULIYA NUKTA SIDDHAM
SPACING(CANDRABINDU) UPADHMANIYA VIRAMA VISARGA) VOWEL(SIGN(AA AI AU E EE I II O OO U UU VOCALIC(L
LL R RR)))) KATAKANA(DIGRAPH(KOTO) ITERATION(MARK) LETTER(A ARCHAIC(E WU YE YI) BA BE BI BO BU DA
DE DI DO DU E GA GE GI GO GU HA HE HI HO HU I KA KE KI KO KU MA ME MI MINNAN(NASALIZED(TONE-1
TONE-2 TONE-3 TONE-4 TONE-5 TONE-7 TONE-8) TONE-2 TONE-3 TONE-4 TONE-5 TONE-7 TONE-8) MO MU N NA NE
NI NO NU O PA PE PI PO PU RA RE RI RO RU SA SE SI SMALL(A E HA HE HI HO HU I KA KE KU MU N NU O RA
RE RI RO RU SI SU TO TU U WA WE WI WO YA YO YU) SO SU TA TE TI TO TU U VA VE VI VO VU WA WE WI WO
YA YO YU ZA ZE ZI ZO ZU) MIDDLE(DOT) VOICED(ITERATION(MARK))) KATAKANA-HIRAGANA(DOUBLE(HYPHEN)
PROLONGED(SOUND(MARK)) SEMI-VOICED(SOUND(MARK)) VOICED(SOUND(MARK))) KAYAH(LI(DIGIT(EIGHT FIVE FOUR
NINE ONE SEVEN SIX THREE TWO ZERO) LETTER(A BA CA DA GA HA HTA I KA KHA LA MA NA NGA NYA OE OO PA
PHA RA SA SHA TA THA VA WA YA ZA) SIGN(CWI SHYA) TONE(CALYA.(PLOPHU) PLOPHU) VOWEL(E EE O U UE)))
KELVIN(SIGN) KEY KEYBOARD.(AND(MOUSE)) KEYCAP(TEN) KHAROSHTHI(DIGIT(FOUR ONE THREE TWO)
FRACTION(ONE(HALF)) LETTER(A BA BHA CA CHA DA DDA DDHA DHA GA GHA HA JA KA KHA KKA LA MA NA NNA NYA
PA PHA RA SA SHA SSA TA THA TTA TTHA TTTA TTTHA VA VHA YA ZA) NUMBER(ONE(HUNDRED THOUSAND) TEN
TWENTY) PUNCTUATION(CIRCLE CRESCENT(BAR) DANDA DOT DOUBLE(DANDA) LINES LOTUS MANGALAM
SMALL(CIRCLE)) SIGN(ANUSVARA BAR(ABOVE) CAUDA DOT(BELOW) DOUBLE(RING(BELOW)) VISARGA) VIRAMA
VOWEL(LENGTH(MARK) SIGN(E I O U VOCALIC(R)))) KHITAN(SMALL(SCRIPT(FILLER)))
KHMER(CURRENCY(SYMBOL(RIEL)) DIGIT(EIGHT FIVE FOUR NINE ONE SEVEN SIX THREE TWO ZERO)
INDEPENDENT(VOWEL(LY LYY QAA QAI QAQ QAU QE QI QII QOO(TYPE(ONE TWO)) QU QUK QUU QUUV RY RYY))
LETTER(BA CA CHA CHO CO DA DO HA KA KHA KHO KO LA LO MO NGO NNO NO NYO PHA PHO PO QA RO SA SHA SSO
TA THA THO TO TTHA TTHO VO YO) SIGN(AHSDA ATTHACAN AVAKRAHASANYA BANTOC BARIYOOSAN BATHAMASAT
BEYYAL CAMNUC(PII(KUUH)) COENG KAKABAT KHAN KOOMUUT LEK(TOO) MUUSIKATOAN NIKAHIT PHNAEK(MUAN)
REAHMUK ROBAT SAMYOK(SANNYA) TOANDAKHIAT TRIISAP VIRIAM YUUKALEAPINTU) SYMBOL(BEI(KOET ROC)
BUON(KOET ROC) DAP(KOET ROC) DAP-BEI(KOET ROC) DAP-BUON(KOET ROC) DAP-MUOY(KOET ROC) DAP-PII(KOET
ROC) DAP-PRAM(KOET ROC) LEK(ATTAK(BEI BUON MUOY PII PRAM PRAM-BEI PRAM-BUON PRAM-MUOY PRAM-PII
SON)) MUOY(KOET ROC) PATHAMASAT PII(KOET ROC) PRAM(KOET ROC) PRAM-BEI(KOET ROC) PRAM-BUON(KOET ROC)
PRAM-MUOY(KOET ROC) PRAM-PII(KOET ROC) TUTEYASAT) VOWEL(INHERENT(AA AQ) SIGN(AA AE AI AU E I IE II
OE OO U UA UU Y YA YY))) KHOJKI(ABBREVIATION(SIGN) DANDA DOUBLE(DANDA SECTION(MARK)) LETTER(A AA AI
AU BA BBA BHA CA CHA DA DDA DDDA DDHA DHA E GA GGA GHA HA I JA JJA KA KHA LA LLA MA NA NGA NNA NYA
O PA PHA RA SA TA THA TTA TTHA U VA YA) SECTION(MARK) SIGN(ANUSVARA NUKTA SHADDA SUKUN VIRAMA)
VOWEL(SIGN(AA AI AU E I II O U)) WORD(SEPARATOR)) KHUDAWADI(DIGIT(EIGHT FIVE FOUR NINE ONE SEVEN
SIX THREE TWO ZERO) LETTER(A AA AI AU BA BBA BHA CA CHA DA DDA DDDA DDHA DHA E GA GGA GHA HA I II
JA JHA JJA KA KHA LA MA NA NGA NNA NYA O PA PHA RA RRA SA SHA TA THA TTA TTHA U UU VA YA)
SIGN(ANUSVARA NUKTA VIRAMA) VOWEL(SIGN(AA AI AU E I II O U UU))) KIMONO KIP(SIGN) KISS.(MARK)
KISSING(CAT(FACE(WITH(CLOSED(EYES)))) FACE.(WITH(CLOSED(EYES) SMILING(EYES)))) KITE KIWIFRUIT
KNEELING(PERSON) KNOT KOALA KOREAN(STANDARD(SYMBOL)) KRONOS L(B(BAR(SYMBOL))) LAB(COAT) LABEL
LACROSSE(STICK(AND(BALL))) LADDER LADY(BEETLE) LANGUAGE(TAG) LAO(CANCELLATION(MARK) DIGIT(EIGHT
FIVE FOUR NINE ONE SEVEN SIX THREE TWO ZERO) ELLIPSIS HO(MO NO) KO(LA) LETTER(BO CO DO FO(FAY FON
SUNG TAM) HO(SUNG TAM) KHMU(GO NYO) KHO(SUNG TAM) KO LO.(LING LOOT) MO NGO NO NYO O PALI(BHA CHA
DDA DDHA DHA GHA JHA LLA NNA NYA TTA TTHA) PHO(SUNG TAM) PO RO SANSKRIT(SHA SSA) SO(SUNG TAM)
THO(SUNG TAM) TO WO YO) NIGGAHITA SEMIVOWEL(SIGN(LO NYO)) SIGN(PALI(VIRAMA)) TONE(MAI(CATAWA EK THO
TI)) VOWEL(SIGN(A AA AI AM AY E EI I II MAI(KAN KON) O U UU Y YY))) LARGE(BLUE(CIRCLE DIAMOND
SQUARE) BROWN(CIRCLE SQUARE) CIRCLE DOWN(TACK) GREEN(CIRCLE SQUARE) LEFT(TRIANGLE(OPERATOR))
ONE(DOT(OVER(TWO(DOTS(PUNCTUATION)))) RING(OVER(TWO(RINGS(PUNCTUATION))))) ORANGE(CIRCLE DIAMOND
SQUARE) PURPLE(CIRCLE SQUARE) RED(CIRCLE SQUARE) TRIPLE(VERTICAL(BAR(OPERATOR)))
TWO(DOTS(OVER(ONE(DOT(PUNCTUATION)))) RINGS(OVER(ONE(RING(PUNCTUATION))))) UP(TACK) YELLOW(CIRCLE
SQUARE)) LARGER(THAN.(OR(EQUAL(TO)))) LARI(SIGN) LAST(QUARTER(MOON.(SYMBOL WITH(FACE))))
LATIN(CAPITAL(LETTER(A.(WITH(ACUTE BREVE.(AND(ACUTE DOT(BELOW) GRAVE HOOK(ABOVE) TILDE)) CARON
CIRCUMFLEX.(AND(ACUTE DOT(BELOW) GRAVE HOOK(ABOVE) TILDE)) DIAERESIS.(AND(MACRON))
DOT(ABOVE.(AND(MACRON)) BELOW) DOUBLE(GRAVE) GRAVE HOOK(ABOVE) INVERTED(BREVE) MACRON OGONEK
RING(ABOVE.(AND(ACUTE)) BELOW) STROKE TILDE)) AA AE.(WITH(ACUTE MACRON)) AFRICAN(D) ALPHA
ANGLICANA(W) AO AU AV.(WITH(HORIZONTAL(BAR))) AY B.(WITH(DOT(ABOVE BELOW) FLOURISH HOOK LINE(BELOW)
STROKE TOPBAR)) BETA BROKEN(L) C.(WITH(ACUTE BAR CARON CEDILLA.(AND(ACUTE)) CIRCUMFLEX DOT(ABOVE)
HOOK PALATAL(HOOK) STROKE)) CHI CLOSED(INSULAR(G)) CON CUATRILLO.(WITH(COMMA)) D.(WITH(CARON
CEDILLA CIRCUMFLEX(BELOW) DOT(ABOVE BELOW) HOOK LINE(BELOW) SHORT(STROKE(OVERLAY))
SMALL(LETTER(Z.(WITH(CARON)))) STROKE TOPBAR)) DZ.(WITH(CARON)) E.(WITH(ACUTE BREVE CARON
CEDILLA.(AND(BREVE)) CIRCUMFLEX.(AND(ACUTE DOT(BELOW) GRAVE HOOK(ABOVE) TILDE) BELOW) DIAERESIS
DOT(ABOVE BELOW) DOUBLE(GRAVE) GRAVE HOOK(ABOVE) INVERTED(BREVE) MACRON.(AND(ACUTE GRAVE)) OGONEK
STROKE TILDE.(BELOW))) EGYPTOLOGICAL(AIN ALEF) ENG ESH ET ETH EZH.(REVERSED WITH(CARON))
F.(WITH(DOT(ABOVE) HOOK STROKE)) G.(WITH(ACUTE BREVE CARON CEDILLA CIRCUMFLEX DOT(ABOVE) HOOK
MACRON OBLIQUE(STROKE) STROKE)) GAMMA GHA GLOTTAL(A I STOP U) H.(WITH(BREVE(BELOW) CARON CEDILLA
CIRCUMFLEX DESCENDER DIAERESIS DOT(ABOVE BELOW) HOOK STROKE)) HALF(H) HENG HWAIR I.(WITH(ACUTE
BREVE CARON CIRCUMFLEX DIAERESIS.(AND(ACUTE)) DOT(ABOVE BELOW) DOUBLE(GRAVE) GRAVE HOOK(ABOVE)
INVERTED(BREVE) MACRON OGONEK STROKE TILDE.(BELOW))) INSULAR(D F G R S T) IOTA IS
J.(WITH(CIRCUMFLEX CROSSED-TAIL STROKE)) K.(WITH(ACUTE CARON CEDILLA DESCENDER DIAGONAL(STROKE)
DOT(BELOW) HOOK LINE(BELOW) OBLIQUE(STROKE) STROKE.(AND(DIAGONAL(STROKE))))) L.(WITH(ACUTE BAR BELT
CARON CEDILLA CIRCUMFLEX(BELOW) DOT(BELOW.(AND(MACRON))) DOUBLE(BAR) HIGH(STROKE) LINE(BELOW)
MIDDLE(DOT TILDE) SMALL(LETTER(J)) STROKE)) LJ M.(WITH(ACUTE DOT(ABOVE BELOW) HOOK))
MIDDLE(SCOTS(S)) MIDDLE-WELSH(LL V) N.(WITH(ACUTE CARON CEDILLA CIRCUMFLEX(BELOW) DESCENDER
DOT(ABOVE BELOW) GRAVE LEFT(HOOK) LINE(BELOW) LONG(RIGHT(LEG)) OBLIQUE(STROKE) SMALL(LETTER(J))
TILDE)) NJ O.(WITH(ACUTE BREVE CARON CIRCUMFLEX.(AND(ACUTE DOT(BELOW) GRAVE HOOK(ABOVE) TILDE))
DIAERESIS.(AND(MACRON)) DOT(ABOVE.(AND(MACRON)) BELOW) DOUBLE(ACUTE GRAVE) GRAVE HOOK(ABOVE)
HORN.(AND(ACUTE DOT(BELOW) GRAVE HOOK(ABOVE) TILDE)) INVERTED(BREVE) LONG(STROKE(OVERLAY)) LOOP
MACRON.(AND(ACUTE GRAVE)) MIDDLE(TILDE) OGONEK.(AND(MACRON)) STROKE.(AND(ACUTE)) TILDE.(AND(ACUTE
DIAERESIS MACRON)))) OI OLD(POLISH(O)) OMEGA OO OPEN(E O) OU P.(WITH(ACUTE DOT(ABOVE) FLOURISH HOOK
SQUIRREL(TAIL) STROKE.(THROUGH(DESCENDER)))) Q.(WITH(DIAGONAL(STROKE) STROKE(THROUGH(DESCENDER))))
R.(ROTUNDA WITH(ACUTE CARON CEDILLA DOT(ABOVE BELOW.(AND(MACRON))) DOUBLE(GRAVE) INVERTED(BREVE)
LINE(BELOW) OBLIQUE(STROKE) STROKE TAIL)) REVERSED(C(WITH(DOT)) E HALF(H) OPEN(E)) RUM(ROTUNDA)
S.(WITH(ACUTE.(AND(DOT(ABOVE))) CARON.(AND(DOT(ABOVE))) CEDILLA CIRCUMFLEX COMMA(BELOW) DOT(ABOVE
BELOW.(AND(DOT(ABOVE)))) HOOK OBLIQUE(STROKE) SHORT(STROKE(OVERLAY)) SWASH(TAIL))) SALTILLO SCHWA
SCRIPT(G) SHARP(S) SIGMOID(S) SMALL(CAPITAL(I) Q(WITH(HOOK(TAIL)))) T.(WITH(CARON CEDILLA
CIRCUMFLEX(BELOW) COMMA(BELOW) DIAGONAL(STROKE) DOT(ABOVE BELOW) HOOK LINE(BELOW) RETROFLEX(HOOK)
STROKE)) THORN.(WITH(STROKE.(THROUGH(DESCENDER)))) TONE(FIVE SIX TWO) TRESILLO TURNED(A ALPHA H
INSULAR(G) K L M T V) TZ U.(BAR WITH(ACUTE BREVE CARON CIRCUMFLEX.(BELOW) DIAERESIS.(AND(ACUTE
CARON GRAVE MACRON) BELOW) DOT(BELOW) DOUBLE(ACUTE GRAVE) GRAVE HOOK(ABOVE) HORN.(AND(ACUTE
DOT(BELOW) GRAVE HOOK(ABOVE) TILDE)) INVERTED(BREVE) MACRON.(AND(DIAERESIS)) OGONEK RING(ABOVE)
STROKE TILDE.(AND(ACUTE) BELOW))) UPSILON V.(WITH(DIAGONAL(STROKE) DOT(BELOW) HOOK TILDE)) VEND
VISIGOTHIC(Z) VOLAPUK(AE OE UE) VY W.(WITH(ACUTE CIRCUMFLEX DIAERESIS DOT(ABOVE BELOW) GRAVE HOOK))
WYNN X.(WITH(DIAERESIS DOT(ABOVE))) Y.(WITH(ACUTE CIRCUMFLEX DIAERESIS DOT(ABOVE BELOW) GRAVE
HOOK.(ABOVE) LOOP MACRON STROKE TILDE)) YOGH Z.(WITH(ACUTE CARON CIRCUMFLEX DESCENDER DOT(ABOVE
BELOW) HOOK LINE(BELOW) PALATAL(HOOK) STROKE SWASH(TAIL)))) LIGATURE(IJ OE)) CROSS
EPIGRAPHIC(LETTER(ARCHAIC(M) I(LONGA) INVERTED(M) REVERSED(F P) SIDEWAYS(I))) LETTER(AIN
ALVEOLAR(CLICK) BIDENTAL(PERCUSSIVE) BILABIAL(CLICK PERCUSSIVE) DENTAL(CLICK)
GLOTTAL(STOP.(WITH(STROKE))) INVERTED(GLOTTAL(STOP.(WITH(CURL STROKE)))) LATERAL(CLICK)
PHARYNGEAL(VOICED(FRICATIVE)) RETROFLEX(CLICK.(WITH(RETROFLEX(HOOK)))) REVERSED(ESH(LOOP)
GLOTTAL(STOP(WITH(STROKE)))) SINOLOGICAL(DOT) SMALL(CAPITAL(A AE B BARRED(B) C D E ETH EZH F
G.(WITH(HOOK)) H I INVERTED(R) J K L.(WITH(BELT STROKE)) M N O OE OPEN(O) OU P Q
R.(WITH(RIGHT(LEG))) REVERSED(N R) RUM S T TURNED(E G K M R) U V W Y Z)) STRETCHED(C.(WITH(CURL)))
TWO(WITH(STROKE)) VOICED(LARYNGEAL(SPIRANT)) WYNN YR) SMALL(CAPITAL(LETTER(I(WITH(STROKE))
U(WITH(STROKE)))) LETTER(A.(REVERSED-SCHWA WITH(ACUTE BREVE.(AND(ACUTE DOT(BELOW) GRAVE HOOK(ABOVE)
TILDE)) CARON CIRCUMFLEX.(AND(ACUTE DOT(BELOW) GRAVE HOOK(ABOVE) TILDE)) DIAERESIS.(AND(MACRON))
DOT(ABOVE.(AND(MACRON)) BELOW) DOUBLE(GRAVE) GRAVE HOOK(ABOVE) INVERTED(BREVE) MACRON OGONEK
RETROFLEX(HOOK) RIGHT(HALF(RING)) RING(ABOVE.(AND(ACUTE)) BELOW) STROKE TILDE)) AA AE.(WITH(ACUTE
MACRON)) ALPHA.(WITH(RETROFLEX(HOOK))) ANGLICANA(W) AO AU AV.(WITH(HORIZONTAL(BAR))) AY
B.(WITH(DOT(ABOVE BELOW) FLOURISH HOOK LINE(BELOW) MIDDLE(TILDE) PALATAL(HOOK) STROKE TOPBAR))
BARRED(ALPHA E O) BASELINE(ESH) BETA BLACKLETTER(E O.(WITH(STROKE))) BOTTOM(HALF(O)) BROKEN(L)
C.(WITH(ACUTE BAR CARON CEDILLA.(AND(ACUTE)) CIRCUMFLEX CURL DOT(ABOVE) HOOK PALATAL(HOOK)
RETROFLEX(HOOK) STROKE)) CHI.(WITH(LOW(LEFT(SERIF) RIGHT(RING)))) CLOSED(INSULAR(G) OMEGA OPEN(E)
REVERSED(OPEN(E))) CON CUATRILLO.(WITH(COMMA)) D.(WITH(CARON CEDILLA CIRCUMFLEX(BELOW) CURL
DOT(ABOVE BELOW) HOOK.(AND(TAIL)) LINE(BELOW) MIDDLE(TILDE) PALATAL(HOOK) SHORT(STROKE(OVERLAY))
STROKE TAIL TOPBAR)) DB(DIGRAPH) DELTA DEZH(DIGRAPH.(WITH(PALATAL(HOOK) RETROFLEX(HOOK))))
DOTLESS(I J.(WITH(STROKE.(AND(HOOK))))) DOUBLE(R.(WITH(CROSSED-TAIL)) THORN WYNN) DUM
DZ.(DIGRAPH.(WITH(CURL RETROFLEX(HOOK))) WITH(CARON)) E.(WITH(ACUTE BREVE CARON
CEDILLA.(AND(BREVE)) CIRCUMFLEX.(AND(ACUTE DOT(BELOW) GRAVE HOOK(ABOVE) TILDE) BELOW) DIAERESIS
DOT(ABOVE BELOW) DOUBLE(GRAVE) FLOURISH GRAVE HOOK(ABOVE) INVERTED(BREVE) MACRON.(AND(ACUTE GRAVE))
NOTCH OGONEK RETROFLEX(HOOK) STROKE TILDE.(BELOW))) EGYPTOLOGICAL(AIN ALEF) ENG.(WITH(CROSSED-TAIL
PALATAL(HOOK))) ESH.(WITH(CURL DOUBLE(BAR.(AND(CURL))) PALATAL(HOOK) RETROFLEX(HOOK))) ET ETH
EZH.(REVERSED WITH(CARON CURL PALATAL(HOOK) RETROFLEX(HOOK) TAIL)) F.(WITH(DOT(ABOVE) HOOK
MIDDLE(TILDE) PALATAL(HOOK) STROKE)) FENG(DIGRAPH.(WITH(TRILL))) G.(WITH(ACUTE BREVE CARON CEDILLA
CIRCUMFLEX DOT(ABOVE) HOOK MACRON OBLIQUE(STROKE) PALATAL(HOOK) STROKE)) GAMMA GHA GLOTTAL(A I STOP
U) H.(WITH(BREVE(BELOW) CARON CEDILLA CIRCUMFLEX DESCENDER DIAERESIS DOT(ABOVE BELOW) HOOK
LINE(BELOW) PALATAL(HOOK) STROKE)) HALF(H) HENG.(WITH(HOOK)) HV I.(WITH(ACUTE BREVE CARON
CIRCUMFLEX DIAERESIS.(AND(ACUTE)) DOT(BELOW) DOUBLE(GRAVE) GRAVE HOOK(ABOVE) INVERTED(BREVE) MACRON
OGONEK RETROFLEX(HOOK) STROKE.(AND(RETROFLEX(HOOK))) TILDE.(BELOW))) INSULAR(D F G R S T)
INVERTED(ALPHA OE) IOTA.(WITH(STROKE)) IOTIFIED(E) IS J.(WITH(CARON CIRCUMFLEX CROSSED-TAIL
STROKE)) K.(WITH(ACUTE CARON CEDILLA DESCENDER DIAGONAL(STROKE) DOT(BELOW) HOOK LINE(BELOW)
OBLIQUE(STROKE) PALATAL(HOOK) STROKE.(AND(DIAGONAL(STROKE))))) KRA L.(WITH(ACUTE BAR
BELT.(AND(PALATAL(HOOK))) CARON CEDILLA CIRCUMFLEX(BELOW) CURL DOT(BELOW.(AND(MACRON))) DOUBLE(BAR
MIDDLE(TILDE)) FISHHOOK HIGH(STROKE) INVERTED(LAZY(S)) LINE(BELOW) MIDDLE(DOT RING TILDE)
PALATAL(HOOK) RETROFLEX(HOOK.(AND(BELT))) STROKE)) LAMBDA(WITH(STROKE)) LENIS(F)
LEZH.(WITH(RETROFLEX(HOOK))) LJ LONG(S.(WITH(DIAGONAL(STROKE) DOT(ABOVE) HIGH(STROKE))))
LS(DIGRAPH) LUM LZ(DIGRAPH) M.(WITH(ACUTE CROSSED-TAIL DOT(ABOVE BELOW) HOOK MIDDLE(TILDE)
PALATAL(HOOK))) MIDDLE(SCOTS(S)) MIDDLE-WELSH(LL V) MUM N.(PRECEDED(BY(APOSTROPHE)) WITH(ACUTE
CARON CEDILLA CIRCUMFLEX(BELOW) CROSSED-TAIL CURL DESCENDER DOT(ABOVE BELOW) GRAVE LEFT(HOOK)
LINE(BELOW) LONG(RIGHT(LEG)) MIDDLE(TILDE) OBLIQUE(STROKE) PALATAL(HOOK) RETROFLEX(HOOK) TILDE)) NJ
NUM O.(WITH(ACUTE BREVE CARON CIRCUMFLEX.(AND(ACUTE DOT(BELOW) GRAVE HOOK(ABOVE) TILDE))
DIAERESIS.(AND(MACRON)) DOT(ABOVE.(AND(MACRON)) BELOW) DOUBLE(ACUTE GRAVE) GRAVE HOOK(ABOVE)
HORN.(AND(ACUTE DOT(BELOW) GRAVE HOOK(ABOVE) TILDE)) INVERTED(BREVE) LONG(STROKE(OVERLAY)) LOOP
LOW(RING(INSIDE)) MACRON.(AND(ACUTE GRAVE)) OGONEK.(AND(MACRON)) RETROFLEX(HOOK)
STROKE.(AND(ACUTE)) TILDE.(AND(ACUTE DIAERESIS MACRON)))) OI OLD(POLISH(O)) OMEGA OO
OPEN(E.(WITH(RETROFLEX(HOOK))) O.(WITH(RETROFLEX(HOOK) STROKE)) OE) OU P.(WITH(ACUTE DOT(ABOVE)
FLOURISH HOOK MIDDLE(TILDE) PALATAL(HOOK) SQUIRREL(TAIL) STROKE.(THROUGH(DESCENDER)))) PHI
Q.(WITH(DIAGONAL(STROKE) HOOK.(TAIL) STROKE(THROUGH(DESCENDER)))) QP(DIGRAPH) R.(ROTUNDA WITH(ACUTE
CARON CEDILLA CROSSED-TAIL DOT(ABOVE BELOW.(AND(MACRON))) DOUBLE(GRAVE) FISHHOOK.(AND(MIDDLE(TILDE)
PALATAL(HOOK))) INVERTED(BREVE) LINE(BELOW) LONG(LEG) MIDDLE(TILDE) OBLIQUE(STROKE) PALATAL(HOOK)
STROKE TAIL) WITHOUT(HANDLE)) RAMS(HORN) REVERSED(C.(WITH(DOT)) E ENG HALF(H) K OPEN(E.(WITH(HOOK
RETROFLEX(HOOK)))) R(WITH(FISHHOOK)) SCRIPT(G)) RUM.(ROTUNDA) S.(WITH(ACUTE.(AND(DOT(ABOVE)))
CARON.(AND(DOT(ABOVE))) CEDILLA CIRCUMFLEX COMMA(BELOW) CURL DOT(ABOVE BELOW.(AND(DOT(ABOVE))))
HOOK MIDDLE(TILDE) OBLIQUE(STROKE) PALATAL(HOOK) SHORT(STROKE(OVERLAY)) SWASH(TAIL))) SAKHA(YAT)
SALTILLO SCHWA.(WITH(HOOK RETROFLEX(HOOK))) SCRIPT(G.(WITH(CROSSED-TAIL)) R.(WITH(RING))) SHARP(S)
SIDEWAYS(DIAERESIZED(U) O.(WITH(STROKE)) OPEN(O) TURNED(M) U) SIGMOID(S) SQUAT(REVERSED(ESH))
STIRRUP(R) T.(WITH(CARON CEDILLA CIRCUMFLEX(BELOW) COMMA(BELOW) CURL DIAERESIS DIAGONAL(STROKE)
DOT(ABOVE BELOW) HOOK.(AND(RETROFLEX(HOOK))) LINE(BELOW) MIDDLE(TILDE) PALATAL(HOOK)
RETROFLEX(HOOK) STROKE)) TAILLESS(PHI) TC(DIGRAPH(WITH(CURL))) TESH(DIGRAPH.(WITH(PALATAL(HOOK)
RETROFLEX(HOOK)))) TH(WITH(STRIKETHROUGH)) THORN.(WITH(STROKE.(THROUGH(DESCENDER)))) TONE(FIVE SIX
TWO) TOP(HALF(O)) TRESILLO TS(DIGRAPH.(WITH(RETROFLEX(HOOK)))) TUM TURNED(A AE ALPHA DELTA E G
H.(WITH(FISHHOOK.(AND(TAIL)))) I INSULAR(G) K L M.(WITH(LONG(LEG))) O(OPEN-O.(WITH(STROKE)))
OE.(WITH(HORIZONTAL(STROKE) STROKE)) OPEN(E) R.(WITH(HOOK LONG(LEG.(AND(RETROFLEX(HOOK))))
MIDDLE(TILDE) PALATAL(HOOK) TAIL)) T.(WITH(CURL)) UI V W Y.(WITH(BELT))) TZ
U.(BAR.(WITH(SHORT(RIGHT(LEG)))) WITH(ACUTE BREVE CARON CIRCUMFLEX.(BELOW) DIAERESIS.(AND(ACUTE
CARON GRAVE MACRON) BELOW) DOT(BELOW) DOUBLE(ACUTE GRAVE) GRAVE HOOK(ABOVE) HORN.(AND(ACUTE
DOT(BELOW) GRAVE HOOK(ABOVE) TILDE)) INVERTED(BREVE) LEFT(HOOK) MACRON.(AND(DIAERESIS)) OGONEK
RETROFLEX(HOOK) RING(ABOVE) SHORT(RIGHT(LEG)) STROKE TILDE.(AND(ACUTE) BELOW))) UE UI UM UO
UPSILON.(WITH(STROKE)) V.(WITH(CURL DIAGONAL(STROKE) DOT(BELOW) HOOK PALATAL(HOOK) RIGHT(HOOK)
TILDE)) VEND VISIGOTHIC(Z) VOLAPUK(AE OE UE) VY W.(WITH(ACUTE CIRCUMFLEX DIAERESIS DOT(ABOVE BELOW)
GRAVE HOOK RING(ABOVE))) X.(WITH(DIAERESIS DOT(ABOVE) LONG(LEFT(LEG.(AND(LOW(RIGHT(RING)))
WITH(SERIF)))) LOW(RIGHT(RING)) PALATAL(HOOK))) Y.(WITH(ACUTE CIRCUMFLEX DIAERESIS DOT(ABOVE BELOW)
GRAVE HOOK.(ABOVE) LOOP MACRON RING(ABOVE) SHORT(RIGHT(LEG)) STROKE TILDE)) YOGH Z.(WITH(ACUTE
CARON CIRCUMFLEX CURL DESCENDER DOT(ABOVE BELOW) HOOK LINE(BELOW) MIDDLE(TILDE) PALATAL(HOOK)
RETROFLEX(HOOK) STROKE SWASH(TAIL)))) LIGATURE(FF FFI FFL FI FL IJ LONG(S(T)) OE ST))
SUBSCRIPT(SMALL(LETTER(A E H I J K L M N O P R S SCHWA T U V X)))) LEAF(FLUTTERING(IN(WIND)))
LEAFY(GREEN) LEDGER LEFT(AND(LOWER(AND(RIGHT(TRIANGULAR(THREE(QUARTERS(BLOCK)))))
ONE(EIGHTH(BLOCK))) RIGHT(DOUBLE(TURNSTILE) TACK TRIANGULAR(HALF(BLOCK)))
UPPER(AND(RIGHT(TRIANGULAR(THREE(QUARTERS(BLOCK))))) ONE(EIGHTH(BLOCK)))) ANGER(BUBBLE)
ANGLE(BRACKET.(WITH(DOT))) ARC(LESS-THAN(BRACKET)) ARROW(WITH(CIRCLED(PLUS) SMALL(CIRCLE)))
BARB(DOWN(RIGHT(BARB(DOWN(HARPOON) UP(HARPOON)))) UP(RIGHT(BARB(DOWN(HARPOON) UP(HARPOON)))))
BLACK(LENTICULAR(BRACKET) TORTOISE(SHELL(BRACKET))) CEILING CLOSED(ENTRY) CORNER(BRACKET)
CURLY(BRACKET.(LOWER(HOOK) MIDDLE(PIECE) UPPER(HOOK))) DOTTED(SUBSTITUTION(BRACKET))
DOUBLE(ANGLE(BRACKET) PARENTHESIS QUOTATION(MARK) WIGGLY(FENCE)) FISH(TAIL) FIVE(EIGHTHS(BLOCK))
FLOOR HALF(BLACK(CIRCLE STAR) BLOCK CIRCLE.(WITH(DOT FOUR(DOTS) THREE(DOTS) TWO(DOTS))) FOLDER
INVERSE(MEDIUM(SHADE(AND(RIGHT(HALF(BLOCK)))))) MEDIUM(SHADE) RUNNING(MAN))
HAND(TELEPHONE(RECEIVER)) LOW(PARAPHRASE(BRACKET)) LUGGAGE MULTIMAP
NORMAL(FACTOR(SEMIDIRECT(PRODUCT))) ONE(EIGHTH(BLOCK) QUARTER(BLOCK)) OUTER(JOIN)
PARENTHESIS.(EXTENSION LOWER(HOOK) UPPER(HOOK)) RAISED(OMISSION(BRACKET))
RIGHT(ARROW.(THROUGH(SMALL(CIRCLE)) WITH(DOUBLE(VERTICAL(STROKE)) STROKE VERTICAL(STROKE)))
BLACK(ARROW) DOUBLE(ARROW.(WITH(STROKE VERTICAL(STROKE)))) OPEN-HEADED(ARROW) SANS-SERIF(ARROW)
TRIANGLE-HEADED(ARROW) WAVE(ARROW) WHITE(ARROW)) S-SHAPED(BAG(DELIMITER)) SEMIDIRECT(PRODUCT)
SEVEN(EIGHTHS(BLOCK)) SIDEWAYS(U(BRACKET)) SINGLE(QUOTATION(MARK)) SPEECH(BUBBLE)
SQUARE(BRACKET.(EXTENSION LOWER(CORNER) UPPER(CORNER) WITH(DOUBLE(STROKE) QUILL STROKE
TICK(IN(BOTTOM(CORNER) TOP(CORNER))) UNDERBAR))) SUBSTITUTION(BRACKET) TACK
THIRD(WHITE(RIGHT(POINTING(INDEX)))) THOUGHT(BUBBLE) THREE(EIGHTHS(BLOCK) QUARTERS(BLOCK))
TORTOISE(SHELL(BRACKET)) TRANSPOSITION(BRACKET) TRIANGLE(BESIDE(VERTICAL(BAR)))
TRIANGULAR(ONE(QUARTER(BLOCK))) VERTICAL(BAR(WITH(QUILL)) BOX(LINE)) WHITE(CORNER(BRACKET)
CURLY(BRACKET) LENTICULAR(BRACKET) PARENTHESIS SQUARE(BRACKET) TORTOISE(SHELL(BRACKET)))
WIGGLY(FENCE) WRITING(HAND)) LEFT-FACING(ARMENIAN(ETERNITY(SIGN)) FIST SVASTI(SIGN.(WITH(DOTS))))
LEFT-HANDED(INTERLACED(PENTAGRAM)) LEFT-POINTING(ANGLE(BRACKET) CURVED(ANGLE(BRACKET))
DOUBLE(ANGLE(QUOTATION(MARK))) MAGNIFYING(GLASS)) LEFT-SHADED(WHITE(RIGHTWARDS(ARROW)))
LEFT-SIDE(ARC(ANTICLOCKWISE(ARROW))) LEFT-TO-RIGHT(EMBEDDING ISOLATE MARK OVERRIDE)
LEFTWARDS(ARROW.(ABOVE(ALMOST(EQUAL(TO)) REVERSE(ALMOST(EQUAL(TO)) TILDE(OPERATOR))
SHORT(RIGHTWARDS(ARROW)) TILDE(OPERATOR)) AND(UPPER(AND(LOWER(ONE(EIGHTH(BLOCK))))))
FROM(BAR.(TO(BLACK(DIAMOND)))) OVER(RIGHTWARDS(ARROW)) THROUGH(LESS-THAN SUBSET X)
TO(BAR.(OVER(RIGHTWARDS(ARROW(TO(BAR))))) BLACK(DIAMOND)) WITH(DOTTED(STEM)
DOUBLE(VERTICAL(STROKE)) EQUILATERAL(ARROWHEAD) HOOK LARGE(TRIANGLE(ARROWHEAD)) LOOP
MEDIUM(TRIANGLE(ARROWHEAD)) NOTCHED(TAIL) PLUS(BELOW) SMALL(EQUILATERAL(ARROWHEAD)
TRIANGLE(ARROWHEAD)) STROKE TAIL.(WITH(DOUBLE(VERTICAL(STROKE)) VERTICAL(STROKE))) TIP(DOWNWARDS
UPWARDS) VERTICAL(STROKE))) ARROW-TAIL BACK-TILTED(SHADOWED(WHITE(ARROW))) BLACK(ARROW
CIRCLED(WHITE(ARROW))) BOTTOM-SHADED(WHITE(ARROW)) COMPRESSED(ARROW) DASHED(ARROW)
DOUBLE(ARROW.(FROM(BAR) WITH(STROKE VERTICAL(STROKE))) ARROW-TAIL DASH(ARROW)) FINGER-POST(ARROW)
FRONT-TILTED(SHADOWED(WHITE(ARROW))) HAND HARPOON(OVER(RIGHTWARDS(HARPOON))
WITH(BARB(DOWN(ABOVE(RIGHTWARDS(HARPOON(WITH(BARB(DOWN))))) BELOW(LONG(DASH)) FROM(BAR) TO(BAR))
DOWNWARDS UP(ABOVE(LEFTWARDS(HARPOON(WITH(BARB(DOWN)))) LONG(DASH)
RIGHTWARDS(HARPOON(WITH(BARB(UP))))) FROM(BAR) TO(BAR)) UPWARDS))) HEAVY(ARROW COMPRESSED(ARROW))
LEFT-SHADED(WHITE(ARROW)) OPEN-HEADED(ARROW) PAIRED(ARROWS) QUADRUPLE(ARROW)
RIGHT-SHADED(WHITE(ARROW)) ROCKET SANS-SERIF(ARROW) SQUARED(ARROW) SQUIGGLE(ARROW)
TOP(SHADED(WHITE(ARROW))) TRIANGLE(ARROWHEAD)
TRIANGLE-HEADED(ARROW.(OVER(RIGHTWARDS(TRIANGLE-HEADED(ARROW))) TO(BAR) WITH(BOLD(SHAFT)
DOUBLE(HORIZONTAL(STROKE) VERTICAL(STROKE)) HEAVY(SHAFT) LONG(TIP(DOWNWARDS UPWARDS)) MEDIUM(SHAFT)
NARROW(SHAFT) VERY(HEAVY(SHAFT)))) DASHED(ARROW) PAIRED(ARROWS)) TRIPLE(ARROW DASH(ARROW))
TWO(HEADED(ARROW)) TWO-HEADED(ARROW(FROM(BAR) WITH(DOUBLE(VERTICAL(STROKE))
TAIL.(WITH(DOUBLE(VERTICAL(STROKE)) VERTICAL(STROKE))) TRIANGLE(ARROWHEADS) VERTICAL(STROKE)))
TRIPLE(DASH(ARROW))) WAVE(ARROW) WHITE(ARROW.(WITHIN(TRIANGLE(ARROWHEAD))))) LEG LEMON LEO LEOPARD
LEPCHA(CONSONANT(SIGN(K KANG L M N NYIN-DO P R T)) DIGIT(EIGHT FIVE FOUR NINE ONE SEVEN SIX THREE
TWO ZERO) LETTER(A BA BLA CA CHA DA DDA DZA FA FLA GA GLA HA HLA JA KA KHA KLA LA MA MLA NA NGA NYA
PA PHA PLA RA SA SHA TA THA TSA TSHA TTA TTHA VA WA YA) PUNCTUATION(CER-WA NYET(THYOOM(TA-ROL))
TA-ROL TSHOOK.(CER-WA)) SIGN(NUKTA RAN) SUBJOINED(LETTER(RA YA)) VOWEL(SIGN(AA E I O OO U UU)))
LESS-THAN(ABOVE(DOUBLE-LINE(EQUAL(ABOVE(GREATER-THAN))) GREATER-THAN(ABOVE(DOUBLE-LINE(EQUAL)))
LEFTWARDS(ARROW) SIMILAR(ABOVE(GREATER-THAN) OR(EQUAL))
SLANTED(EQUAL(ABOVE(GREATER-THAN(ABOVE(SLANTED(EQUAL))))))) AND(NOT(APPROXIMATE)
SINGLE-LINE(NOT(EQUAL(TO)))) BUT(NOT(EQUAL(TO) EQUIVALENT(TO)))
CLOSED(BY(CURVE.(ABOVE(SLANTED(EQUAL))))) EQUAL(TO(OR(GREATER-THAN))) OR(APPROXIMATE EQUAL(TO)
EQUIVALENT(TO) GREATER-THAN SLANTED(EQUAL(TO.(WITH(DOT(ABOVE.(RIGHT) INSIDE)))))) OVER(EQUAL(TO))
SIGN WITH(CIRCLE(INSIDE) DOT QUESTION(MARK(ABOVE)))) LEVEL(SLIDER) LF LIBRA
LIGATURE(OPEN(ET(ORNAMENT))) LIGHT(CHECK(MARK) EIGHT(SPOKED(ASTERISK)) FIVE(POINTED(BLACK(STAR))
SPOKED(ASTERISK)) FOUR(POINTED(BLACK(CUSP STAR))) GREEK(CROSS)
LEFT(TORTOISE(SHELL(BRACKET(ORNAMENT)))) RAIL RIGHT(TORTOISE(SHELL(BRACKET(ORNAMENT)))) SALTIRE
SHADE SIX(SPOKED(ASTERISK)) THREE(POINTED(BLACK(STAR))) TWELVE(POINTED(BLACK(STAR))) VERTICAL(BAR)
WHITE(SQUARE)) LIGHTNING.(MOOD.(BUBBLE)) LIMBU(DIGIT(EIGHT FIVE FOUR NINE ONE SEVEN SIX THREE TWO
ZERO) EXCLAMATION(MARK) LETTER(BA BHA CA CHA DA DHA GA GHA GYAN HA JA JHA KA KHA LA MA NA NGA PA
PHA RA SA SHA SSA TA THA TRA WA YA YAN) QUESTION(MARK) SIGN(KEMPHRENG LOO MUKPHRENG SA-I)
SMALL(LETTER(ANUSVARA KA LA MA NA NGA PA RA TA)) SUBJOINED(LETTER(RA WA YA)) VOWEL(SIGN(A AI AU E
EE I O OO U)) VOWEL-CARRIER(LETTER)) LIMITED(LIABILITY(SIGN)) LINE(FEED
INTEGRATION(NOT(INCLUDING(THE(POLE))) WITH(RECTANGULAR(PATH(AROUND(POLE)))
SEMICIRCULAR(PATH(AROUND(POLE))))) SEPARATOR TABULATION.(SET)) LINEAR(A(SIGN(A028B A100-102 A120B
A131C A301 A302 A303 A304 A305 A306 A307 A308 A309A A309B A309C A310 A311 A312 A313A A313B A313C
A314 A315 A316 A317 A318 A319 A320 A321 A322 A323 A324 A325 A326 A327 A328 A329 A330 A331 A332 A333
A334 A335 A336 A337 A338 A339 A340 A341 A342 A343 A344 A345 A346 A347 A348 A349 A350 A351 A352 A353
A354 A355 A356 A357 A358 A359 A360 A361 A362 A363 A364 A365 A366 A367 A368 A369 A370 A371 A400-VAS
A401-VAS A402-VAS A403-VAS A404-VAS A405-VAS A406-VAS A407-VAS A408-VAS A409-VAS A410-VAS A411-VAS
A412-VAS A413-VAS A414-VAS A415-VAS A416-VAS A417-VAS A418-VAS A501 A502 A503 A504 A505 A506 A508
A509 A510 A511 A512 A513 A515 A516 A520 A521 A523 A524 A525 A526 A527 A528 A529 A530 A531 A532 A534
A535 A536 A537 A538 A539 A540 A541 A542 A545 A547 A548 A549 A550 A551 A552 A553 A554 A555 A556 A557
A559 A563 A564 A565 A566 A568 A569 A570 A571 A572 A573 A574 A575 A576 A577 A578 A579 A580 A581 A582
A583 A584 A585 A586 A587 A588 A589 A591 A592 A594 A595 A596 A598 A600 A601 A602 A603 A604 A606 A608
A609 A610 A611 A612 A613 A614 A615 A616 A617 A618 A619 A620 A621 A622 A623 A624 A626 A627 A628 A629
A634 A637 A638 A640 A642 A643 A644 A645 A646 A648 A649 A651 A652 A653 A654 A655 A656 A657 A658 A659
A660 A661 A662 A663 A664 A701(A) A702(B) A703(D) A704(E) A705(F) A706(H) A707(J) A708(K) A709(L)
A709-2(L2) A709-3(L3) A709-4(L4) A709-6(L6) A710(W) A711(X) A712(Y) A713(OMEGA) A714(ABB) A715(BB)
A717(DD) A726(EYYY) A732(JE) A800 A801 A802 A803 A804 A805 A806 A807 AB001 AB002 AB003 AB004 AB005
AB006 AB007 AB008 AB009 AB010 AB011 AB013 AB016 AB017 AB020 AB021 AB021F AB021M AB022 AB022F AB022M
AB023 AB023M AB024 AB026 AB027 AB028 AB029 AB030 AB031 AB034 AB037 AB038 AB039 AB040 AB041 AB044
AB045 AB046 AB047 AB048 AB049 AB050 AB051 AB053 AB054 AB055 AB056 AB057 AB058 AB059 AB060 AB061
AB065 AB066 AB067 AB069 AB070 AB073 AB074 AB076 AB077 AB078 AB079 AB080 AB081 AB082 AB085 AB086
AB087 AB118 AB120 AB122 AB123 AB131A AB131B AB164 AB171 AB180 AB188 AB191)) B(IDEOGRAM(B100(MAN)
B102(WOMAN) B104(DEER) B105(EQUID) B105F(MARE) B105M(STALLION) B106F(EWE) B106M(RAM)
B107F(SHE-GOAT) B107M(HE-GOAT) B108F(SOW) B108M(BOAR) B109F(COW) B109M(BULL) B120(WHEAT)
B121(BARLEY) B122(OLIVE) B123(SPICE) B125(CYPERUS) B130(OIL) B131(WINE) B132 B140(BRONZE)
B141(GOLD) B142 B145(WOOL) B146 B150 B151(HORN) B152 B153 B154 B157 B158 B159(CLOTH) B160 B161
B162(GARMENT) B163(ARMOUR) B164 B165 B166 B167 B168 B169 B170 B171 B172 B173(MONTH) B174 B176(TREE)
B177 B178 B179 B180 B181 B182 B183 B184 B185 B189 B190 B191(HELMET) B220(FOOTSTOOL) B225(BATHTUB)
B230(SPEAR) B231(ARROW) B232 B233(SWORD) B234 B236 B240(WHEELED(CHARIOT)) B241(CHARIOT)
B242(CHARIOT(FRAME)) B243(WHEEL) B245 B246 B248 B249 B251 B252 B253 B254(DART) B255 B256 B257 B258
B259 VESSEL(B155 B200 B201 B202 B203 B204 B205 B206 B207 B208 B209 B210 B211 B212 B213 B214 B215
B216 B217 B218 B219 B221 B222 B226 B227 B228 B229 B250 B305)) MONOGRAM(B127(KAPO) B128(KANAKO)
B133(AREPA) B135(MERI) B156(TURO2) B247(DIPTE)) SYLLABLE(B001(DA) B002(RO) B003(PA) B004(TE)
B005(TO) B006(NA) B007(DI) B008(A) B009(SE) B010(U) B011(PO) B012(SO) B013(ME) B014(DO) B015(MO)
B016(QA) B017(ZA) B020(ZO) B021(QI) B023(MU) B024(NE) B025(A2) B026(RU) B027(RE) B028(I) B029(PU2)
B030(NI) B031(SA) B032(QO) B033(RA3) B036(JO) B037(TI) B038(E) B039(PI) B040(WI) B041(SI) B042(WO)
B043(A3) B044(KE) B045(DE) B046(JE) B048(NWA) B050(PU) B051(DU) B052(NO) B053(RI) B054(WA) B055(NU)
B057(JA) B058(SU) B059(TA) B060(RA) B061(O) B062(PTE) B065(JU) B066(TA2) B067(KI) B068(RO2)
B069(TU) B070(KO) B071(DWE) B072(PE) B073(MI) B074(ZE) B075(WE) B076(RA2) B077(KA) B078(QE)
B080(MA) B081(KU) B085(AU) B087(TWE) B090(DWO) B091(TWO)) SYMBOL(B018 B019 B022 B034 B047 B049 B056
B063 B064 B079 B082 B083 B086 B089))) LINK(SYMBOL) LINKED(PAPERCLIPS) LION(FACE) LIPS LIPSTICK
LIRA(SIGN) LISU(LETTER(A AE BA CA CHA DA DZA E EU FA GA GHA HA HHA I JA KA KHA LA MA NA NGA O OE PA
PHA SA SHA TA THA TONE(MYA(BO CYA JEU NA TI) NA(PO)) TSA TSHA U UE UH WA XA YA YHA ZA ZHA)
PUNCTUATION(COMMA FULL(STOP))) LIVRE(TOURNOIS(SIGN)) LIZARD LLAMA LOBSTER LOCK.(WITH(INK(PEN)))
LOCKING-SHIFT(ONE ZERO) LOGICAL(AND.(WITH(DOT(ABOVE) DOUBLE(OVERBAR UNDERBAR) HORIZONTAL(DASH)
MIDDLE(STEM) UNDERBAR)) OR.(OVERLAPPING(LOGICAL(AND)) WITH(DOT(ABOVE) DOUBLE(OVERBAR UNDERBAR)
HORIZONTAL(DASH) MIDDLE(STEM)))) LOLLIPOP LONG(DASH(FROM(LEFT(MEMBER(OF(DOUBLE(VERTICAL))))))
DIVISION DRUM LEFT(RIGHT(ARROW DOUBLE(ARROW)) TACK) LEFTWARDS(ARROW.(FROM(BAR))
DOUBLE(ARROW.(FROM(BAR))) SQUIGGLE(ARROW)) RIGHT(TACK) RIGHTWARDS(ARROW.(FROM(BAR))
DOUBLE(ARROW.(FROM(BAR))) SQUIGGLE(ARROW))) LOTION(BOTTLE) LOTUS LOUDLY(CRYING(FACE)) LOVE(HOTEL
LETTER) LOW(ASTERISK BATTERY BRIGHTNESS(SYMBOL) DOUBLE(PRIME(QUOTATION(MARK))) KAVYKA.(WITH(DOT))
LINE) LOWER(BLADE(SCISSORS) FIVE(EIGHTHS(BLOCK)) HALF(BLOCK CIRCLE INVERSE(WHITE(CIRCLE))
MEDIUM(SHADE)) LEFT(BALLPOINT(PEN) BLOCK(DIAGONAL(LOWER(MIDDLE(LEFT(TO(LOWER(CENTRE RIGHT)))))
UPPER(CENTRE(TO(LOWER(MIDDLE(RIGHT) RIGHT) UPPER(MIDDLE(RIGHT)))) LEFT(TO(LOWER(CENTRE
MIDDLE(RIGHT)) UPPER(MIDDLE(RIGHT)))) MIDDLE(LEFT(TO(LOWER(CENTRE MIDDLE(RIGHT) RIGHT))))))) CRAYON
FOUNTAIN(PEN) PAINTBRUSH PENCIL QUADRANT(CIRCULAR(ARC)) SEMICIRCULAR(ANTICLOCKWISE(ARROW)) TRIANGLE
TRIANGULAR(MEDIUM(SHADE))) ONE(EIGHTH(BLOCK) QUARTER(BLOCK))
RIGHT(BLOCK(DIAGONAL(LOWER(CENTRE(TO(LOWER(MIDDLE(RIGHT)) UPPER(MIDDLE(RIGHT) RIGHT)))
LEFT(TO(LOWER(MIDDLE(RIGHT)) UPPER(CENTRE MIDDLE(RIGHT)))) MIDDLE(LEFT(TO(UPPER(CENTRE
MIDDLE(RIGHT) RIGHT))))) UPPER(MIDDLE(LEFT(TO(UPPER(CENTRE RIGHT))))))) CORNER(WITH(DOT))
DROP-SHADOWED(WHITE(SQUARE)) PENCIL QUADRANT(CIRCULAR(ARC)) SEMICIRCULAR(CLOCKWISE(ARROW))
SHADOWED(WHITE(CIRCLE SQUARE)) TRIANGLE TRIANGULAR(MEDIUM(SHADE))) SEVEN(EIGHTHS(BLOCK))
THREE(EIGHTHS(BLOCK) QUARTERS(BLOCK)) TRIANGULAR(ONE(QUARTER(BLOCK))))
LOZENGE.(DIVIDED(BY(HORIZONTAL(RULE)))) LRE LRI LRM LRO LUGGAGE LUNGS LYCIAN(LETTER(A AN B BH D E
EN G H I J K KK L M MM N NN P Q R S T TH TT U W X Z)) LYDIAN(LETTER(A AN B C D E EN F G I K L LY M
N NN O Q R S SS T TT U V Y) TRIANGULAR(MARK)) LYING(FACE) MACRON MAGE MAGIC(WAND) MAGNET
MAHAJANI(ABBREVIATION(SIGN) LETTER(A BA BHA CA CHA DA DDA DDHA DHA E GA GHA HA I JA JHA KA KHA LA
MA NA NNA NYA O PA PHA RA RRA SA TA THA TTA TTHA U VA) LIGATURE(SHRI) SECTION(MARK) SIGN(NUKTA))
MAHJONG(TILE(AUTUMN BACK BAMBOO CHRYSANTHEMUM EAST(WIND) EIGHT(OF(BAMBOOS CHARACTERS CIRCLES))
FIVE(OF(BAMBOOS CHARACTERS CIRCLES)) FOUR(OF(BAMBOOS CHARACTERS CIRCLES)) GREEN(DRAGON) JOKER
NINE(OF(BAMBOOS CHARACTERS CIRCLES)) NORTH(WIND) ONE(OF(BAMBOOS CHARACTERS CIRCLES)) ORCHID PLUM
RED(DRAGON) SEVEN(OF(BAMBOOS CHARACTERS CIRCLES)) SIX(OF(BAMBOOS CHARACTERS CIRCLES)) SOUTH(WIND)
SPRING SUMMER THREE(OF(BAMBOOS CHARACTERS CIRCLES)) TWO(OF(BAMBOOS CHARACTERS CIRCLES)) WEST(WIND)
WHITE(DRAGON) WINTER)) MAKASAR(ANGKA END(OF(SECTION)) LETTER(A BA CA DA GA JA KA LA MA NA NGA NYA
PA RA SA TA VA YA) PASSIMBANG VOWEL(SIGN(E I O U))) MALAYALAM(AU(LENGTH(MARK)) DATE(MARK)
DIGIT(EIGHT FIVE FOUR NINE ONE SEVEN SIX THREE TWO ZERO) FRACTION(ONE(EIGHTH FIFTH FORTIETH HALF
ONE-HUNDRED-AND-SIXTIETH QUARTER SIXTEENTH TENTH TWENTIETH) THREE(EIGHTIETHS QUARTERS SIXTEENTHS
TWENTIETHS)) LETTER(A AA AI ARCHAIC(II) AU BA BHA CA CHA CHILLU(K L LL LLL M N NN RR Y) DA DDA DDHA
DHA DOT(REPH) E EE GA GHA HA I II JA JHA KA KHA LA LLA LLLA MA NA NGA NNA NNNA NYA O OO PA PHA RA
RRA SA SHA SSA TA THA TTA TTHA TTTA U UU VA VEDIC(ANUSVARA) VOCALIC(L LL R RR) YA)
NUMBER(ONE(HUNDRED THOUSAND) TEN) SIGN(ANUSVARA AVAGRAHA CANDRABINDU CIRCULAR(VIRAMA)
COMBINING(ANUSVARA(ABOVE)) PARA VERTICAL(BAR(VIRAMA)) VIRAMA VISARGA) VOWEL(SIGN(AA AI AU E EE I II
O OO U UU VOCALIC(L LL R RR)))) MALE(AND(FEMALE(SIGN)) SIGN
WITH(STROKE(AND(MALE(AND(FEMALE(SIGN)))) SIGN))) MALTESE(CROSS) MAMMOTH
MAN.(AND(WOMAN(HOLDING(HANDS))) DANCING IN(BUSINESS(SUIT(LEVITATING)) TUXEDO) WITH(GUA(PI(MAO))
TURBAN)) MANAT(SIGN) MANDAIC(AFFRICATION(MARK) GEMINATION(MARK) LETTER(AB AD AG AH AIN AK AKSA AL
AM AN AP AQ AR AS ASH ASZ AT ATT AZ DUSHENNA HALQA IN IT KAD USHENNA) PUNCTUATION
VOCALIZATION(MARK)) MANGO MANICHAEAN(ABBREVIATION(MARK(ABOVE BELOW)) LETTER(AAYIN ALEPH AYIN BETH
BHETH DALETH DHAMEDH FE GHIMEL GIMEL HE HETH JAYIN JHAYIN KAPH KHAPH LAMEDH MEM NUN PE QHOPH QOPH
RESH SADHE SAMEKH SHIN SSHIN TAW TETH THAMEDH WAW XAPH XOPH YODH ZAYIN ZHAYIN) NUMBER(FIVE
ONE.(HUNDRED) TEN TWENTY) PUNCTUATION(DOT.(WITHIN(DOT)) DOUBLE(DOT(WITHIN(DOT))) FLEURON
LINE(FILLER) STAR TWO(DOTS)) SIGN(UD)) MANS(SHOE) MANTELPIECE(CLOCK) MANUAL(WHEELCHAIR)
MAP(SYMBOL(FOR(LIGHTHOUSE))) MAPLE(LEAF) MARCHEN(HEAD(MARK) LETTER(-A A BA CA CHA DA DZA GA HA JA
KA KHA LA MA NA NGA NYA PA PHA RA SA SHA TA THA TSA TSHA WA YA ZA ZHA) MARK(SHAD) SIGN(ANUSVARA
CANDRABINDU) SUBJOINED(LETTER(A BA CA CHA DA DZA GA HA JA KA KHA LA MA NA NGA NYA PA PHA RA SA SHA
TA THA TSA TSHA WA YA ZA ZHA)) VOWEL(SIGN(AA E I O U))) MARRIAGE(SYMBOL) MARTIAL(ARTS(UNIFORM))
MASARAM(GONDI(DIGIT(EIGHT FIVE FOUR NINE ONE SEVEN SIX THREE TWO ZERO) LETTER(A AA AI AU BA BHA CA
CHA DA DDA DDHA DHA E GA GHA HA I II JA JHA JNYA KA KHA KSSA LA LLA MA NA NGA NNA NYA O PA PHA RA
SA SHA SSA TA THA TRA TTA TTHA U UU VA YA) RA-KARA REPHA SIGN(ANUSVARA CANDRA HALANTA NUKTA
VISARGA) VIRAMA VOWEL(SIGN(AA AI AU E I II O U UU VOCALIC(R))))) MASCULINE(ORDINAL(INDICATOR))
MASK(WORK(SYMBOL)) MASU(MARK) MATE(DRINK) MATHEMATICAL(BOLD(CAPITAL(A ALPHA B BETA C CHI D DELTA
DIGAMMA E EPSILON ETA F G GAMMA H I IOTA J K KAPPA L LAMDA M MU N NU O OMEGA OMICRON P PHI PI PSI Q
R RHO S SIGMA T TAU THETA.(SYMBOL) U UPSILON V W X XI Y Z ZETA) DIGIT(EIGHT FIVE FOUR NINE ONE
SEVEN SIX THREE TWO ZERO) EPSILON(SYMBOL) FRAKTUR(CAPITAL(A B C D E F G H I J K L M N O P Q R S T U
V W X Y Z) SMALL(A B C D E F G H I J K L M N O P Q R S T U V W X Y Z)) ITALIC(CAPITAL(A ALPHA B
BETA C CHI D DELTA E EPSILON ETA F G GAMMA H I IOTA J K KAPPA L LAMDA M MU N NU O OMEGA OMICRON P
PHI PI PSI Q R RHO S SIGMA T TAU THETA.(SYMBOL) U UPSILON V W X XI Y Z ZETA) EPSILON(SYMBOL)
KAPPA(SYMBOL) NABLA PARTIAL(DIFFERENTIAL) PHI(SYMBOL) PI(SYMBOL) RHO(SYMBOL) SMALL(A ALPHA B BETA C
CHI D DELTA E EPSILON ETA F FINAL(SIGMA) G GAMMA H I IOTA J K KAPPA L LAMDA M MU N NU O OMEGA
OMICRON P PHI PI PSI Q R RHO S SIGMA T TAU THETA U UPSILON V W X XI Y Z ZETA) THETA(SYMBOL))
KAPPA(SYMBOL) NABLA PARTIAL(DIFFERENTIAL) PHI(SYMBOL) PI(SYMBOL) RHO(SYMBOL) SCRIPT(CAPITAL(A B C D
E F G H I J K L M N O P Q R S T U V W X Y Z) SMALL(A B C D E F G H I J K L M N O P Q R S T U V W X
Y Z)) SMALL(A ALPHA B BETA C CHI D DELTA DIGAMMA E EPSILON ETA F FINAL(SIGMA) G GAMMA H I IOTA J K
KAPPA L LAMDA M MU N NU O OMEGA OMICRON P PHI PI PSI Q R RHO S SIGMA T TAU THETA U UPSILON V W X XI
Y Z ZETA) THETA(SYMBOL)) DOUBLE-STRUCK(CAPITAL(A B D E F G I J K L M O S T U V W X Y) DIGIT(EIGHT
FIVE FOUR NINE ONE SEVEN SIX THREE TWO ZERO) SMALL(A B C D E F G H I J K L M N O P Q R S T U V W X
Y Z)) FALLING(DIAGONAL) FRAKTUR(CAPITAL(A B D E F G J K L M N O P Q S T U V W X Y) SMALL(A B C D E
F G H I J K L M N O P Q R S T U V W X Y Z)) ITALIC(CAPITAL(A ALPHA B BETA C CHI D DELTA E EPSILON
ETA F G GAMMA H I IOTA J K KAPPA L LAMDA M MU N NU O OMEGA OMICRON P PHI PI PSI Q R RHO S SIGMA T
TAU THETA.(SYMBOL) U UPSILON V W X XI Y Z ZETA) EPSILON(SYMBOL) KAPPA(SYMBOL) NABLA
PARTIAL(DIFFERENTIAL) PHI(SYMBOL) PI(SYMBOL) RHO(SYMBOL) SMALL(A ALPHA B BETA C CHI D DELTA
DOTLESS(I J) E EPSILON ETA F FINAL(SIGMA) G GAMMA I IOTA J K KAPPA L LAMDA M MU N NU O OMEGA
OMICRON P PHI PI PSI Q R RHO S SIGMA T TAU THETA U UPSILON V W X XI Y Z ZETA) THETA(SYMBOL))
LEFT(ANGLE(BRACKET) DOUBLE(ANGLE(BRACKET)) FLATTENED(PARENTHESIS) WHITE(SQUARE(BRACKET)
TORTOISE(SHELL(BRACKET)))) MONOSPACE(CAPITAL(A B C D E F G H I J K L M N O P Q R S T U V W X Y Z)
DIGIT(EIGHT FIVE FOUR NINE ONE SEVEN SIX THREE TWO ZERO) SMALL(A B C D E F G H I J K L M N O P Q R
S T U V W X Y Z)) RIGHT(ANGLE(BRACKET) DOUBLE(ANGLE(BRACKET)) FLATTENED(PARENTHESIS)
WHITE(SQUARE(BRACKET) TORTOISE(SHELL(BRACKET)))) RISING(DIAGONAL) SANS-SERIF(BOLD(CAPITAL(A ALPHA B
BETA C CHI D DELTA E EPSILON ETA F G GAMMA H I IOTA J K KAPPA L LAMDA M MU N NU O OMEGA OMICRON P
PHI PI PSI Q R RHO S SIGMA T TAU THETA.(SYMBOL) U UPSILON V W X XI Y Z ZETA) DIGIT(EIGHT FIVE FOUR
NINE ONE SEVEN SIX THREE TWO ZERO) EPSILON(SYMBOL) ITALIC(CAPITAL(A ALPHA B BETA C CHI D DELTA E
EPSILON ETA F G GAMMA H I IOTA J K KAPPA L LAMDA M MU N NU O OMEGA OMICRON P PHI PI PSI Q R RHO S
SIGMA T TAU THETA.(SYMBOL) U UPSILON V W X XI Y Z ZETA) EPSILON(SYMBOL) KAPPA(SYMBOL) NABLA
PARTIAL(DIFFERENTIAL) PHI(SYMBOL) PI(SYMBOL) RHO(SYMBOL) SMALL(A ALPHA B BETA C CHI D DELTA E
EPSILON ETA F FINAL(SIGMA) G GAMMA H I IOTA J K KAPPA L LAMDA M MU N NU O OMEGA OMICRON P PHI PI
PSI Q R RHO S SIGMA T TAU THETA U UPSILON V W X XI Y Z ZETA) THETA(SYMBOL)) KAPPA(SYMBOL) NABLA
PARTIAL(DIFFERENTIAL) PHI(SYMBOL) PI(SYMBOL) RHO(SYMBOL) SMALL(A ALPHA B BETA C CHI D DELTA E
EPSILON ETA F FINAL(SIGMA) G GAMMA H I IOTA J K KAPPA L LAMDA M MU N NU O OMEGA OMICRON P PHI PI
PSI Q R RHO S SIGMA T TAU THETA U UPSILON V W X XI Y Z ZETA) THETA(SYMBOL)) CAPITAL(A B C D E F G H
I J K L M N O P Q R S T U V W X Y Z) DIGIT(EIGHT FIVE FOUR NINE ONE SEVEN SIX THREE TWO ZERO)
ITALIC(CAPITAL(A B C D E F G H I J K L M N O P Q R S T U V W X Y Z) SMALL(A B C D E F G H I J K L M
N O P Q R S T U V W X Y Z)) SMALL(A B C D E F G H I J K L M N O P Q R S T U V W X Y Z))
SCRIPT(CAPITAL(A C D G J K N O P Q S T U V W X Y Z) SMALL(A B C D F H I J K L M N P Q R S T U V W X
Y Z))) MAXIMIZE MAYAN(NUMERAL(EIGHT EIGHTEEN ELEVEN FIFTEEN FIVE FOUR FOURTEEN NINE NINETEEN ONE
SEVEN SEVENTEEN SIX SIXTEEN TEN THIRTEEN THREE TWELVE TWO ZERO)) MEASURED(ANGLE.(OPENING(LEFT)
WITH(OPEN(ARM(ENDING(IN(ARROW(POINTING(DOWN(AND(LEFT RIGHT)) LEFT(AND(DOWN UP)) RIGHT(AND(DOWN UP))
UP(AND(LEFT RIGHT)))))))))) BY RIGHT(ANGLE(WITH(DOT)))) MEAT(ON(BONE)) MECHANICAL(ARM LEG)
MEDEFAIDRIN(CAPITAL(LETTER(A AI ATIU B C D E F G H HP I J K KP L M N NG NY O OE P Q R S T U V W X Y
YU Z)) COMMA DIGIT(EIGHT FIVE FOUR NINE ONE.(ALTERNATE(FORM)) SEVEN SIX THREE.(ALTERNATE(FORM))
TWO.(ALTERNATE(FORM)) ZERO) EXCLAMATION(OH) FULL(STOP) NUMBER(EIGHTEEN ELEVEN FIFTEEN FOURTEEN
NINETEEN SEVENTEEN SIXTEEN TEN THIRTEEN TWELVE) SMALL(LETTER(A AI ATIU B C D E F G H HP I J K KP L
M N NG NY O OE P Q R S T U V W X Y YU Z)) SYMBOL(AIVA)) MEDIEVAL(COMMA EXCLAMATION(MARK)
QUESTION(MARK)) MEDIUM(BLACK(CIRCLE) BOLD(WHITE(CIRCLE)) EIGHT(POINTED(BLACK(STAR))
SPOKED(ASTERISK)) FIVE(SPOKED(ASTERISK)) FLATTENED(LEFT(PARENTHESIS(ORNAMENT))
RIGHT(PARENTHESIS(ORNAMENT))) FOUR(POINTED(BLACK(STAR) PINWHEEL(STAR))) GREEK(CROSS)
LEFT(CURLY(BRACKET(ORNAMENT)) PARENTHESIS(ORNAMENT)) LEFT-POINTING(ANGLE(BRACKET(ORNAMENT)))
MATHEMATICAL(SPACE) RIGHT(CURLY(BRACKET(ORNAMENT)) PARENTHESIS(ORNAMENT))
RIGHT-POINTING(ANGLE(BRACKET(ORNAMENT))) SALTIRE SHADE SIX(POINTED(BLACK(STAR)) SPOKED(ASTERISK))
SMALL(WHITE(CIRCLE)) THREE(POINTED(BLACK(STAR) PINWHEEL(STAR))) VERTICAL(BAR) WHITE(CIRCLE SQUARE))
MEETEI(MAYEK(AHANG(KHUDAM) ANJI APUN(IYEK) CHEIKHAN CHEIKHEI DIGIT(EIGHT FIVE FOUR NINE ONE SEVEN
SIX THREE TWO ZERO) LETTER(ATIYA BA BHAM CHA CHIL DDA DDHA DHOU DIL E GHOU GOK HUK I.(LONSUM) JHAM
JIL KHOU KOK.(LONSUM) LAI.(LONSUM) MIT.(LONSUM) NA.(LONSUM) NGOU.(LONSUM) NNA NYA O PA.(LONSUM)
PHAM RAI SAM SHA SSA THOU TIL.(LONSUM) TTA TTHA UN WAI YANG) LUM(IYEK) SYLLABLE(REPETITION(MARK))
VIRAMA VOWEL(SIGN(AAI AAU ANAP AU CHEINAP II INAP NUNG ONAP SOUNAP UNAP UU VISARGA YENAP))
WORD(REPETITION(MARK)))) MELON MELTING(FACE) MEMO MENDE(KIKAKUI(COMBINING(NUMBER(HUNDRED(THOUSANDS)
HUNDREDS MILLIONS TEENS TEN(THOUSANDS) TENS THOUSANDS)) DIGIT(EIGHT FIVE FOUR NINE ONE SEVEN SIX
THREE TWO) SYLLABLE(M001(KI) M002(KA) M003(KU) M004(WI) M005(WA) M006(WU) M007(MIN) M008(MAN)
M009(MUN) M010(BI) M011(BA) M012(BU) M013(I) M014(A) M015(U) M016(DI) M017(DA) M018(DU) M019(SI)
M020(SA) M021(SU) M022(TI) M023(TA) M024(TU) M025(LI) M026(LA) M027(LU) M028(JI) M029(JA) M030(JU)
M031(YI) M032(YA) M033(YU) M034(FI) M035(FA) M036(FU) M037(NIN) M038(NAN) M039(NUN) M040(HEE)
M041(HA) M042(HOO) M043(NGGA) M044(KPEE) M045(WO) M046(HUAN) M047(MBEE) M048(KO) M049(WVA) M050(PU)
M051(PE) M052(HEN) M053(HIN) M054(LOO) M055(TE) M056(GBA) M057(NGON) M058(NYAN) M059(MEN)
M060(NYON) M061(WVI) M062(MBA) M063(JO) M064(NDO) M065(KEE) M066(PO) M067(NDOO) M068(PI) M069(TO)
M070(GBO) M071(GBOO) M072(MBE) M073(LE) M074(KPU) M075(FE) M076(KOO) M077(VO) M078(FEE) M079(SO)
M080(YE) M081(PEE) M082(NGGU) M083(HEEI) M084(LEE) M085(VE) M086(LONG(NGGE)) M087(HUN) M088(FO)
M089(DEE) M090(NGGI) M091(TEE) M092(KPA) M093(GBEE) M094(MON) M095(KE) M096(HE) M097(BE) M098(NYEN)
M099(PA) M100(E) M101(FAN) M102(POO) M103(BOO) M104(TOO) M105(LONG(MBOO)) M106(LONG(NGGOO))
M107(GBE) M108(KPE) M109(YEE) M110(LONG(LE)) M111(GA) M112(KPOO) M113(JE) M114(WOO) M115(NGGEE)
M116(SE) M117(NEN) M118(WE) M119(NDE) M120(NGGO) M121(YO) M122(MBU) M123(NDI) M124(GBI) M125(NDU)
M126(WEE) M127(NGGUA) M128(HOOU) M129(NDA) M130(HAN) M131(IN) M132(KPI) M133(FOO) M134(NJOO)
M135(IN) M136(SOO) M137(EI) M138(BO) M139(WVE) M140(HO) M141(YOO) M142(LONG(MBO)) M143(WEI)
M144(VOO) M145(MBI) M146(NGGE) M147(O) M148(GBU) M149(NJEE) M150(BEE) M151(VU) M152(NJA) M153(LO)
M154(MUAN) M155(GI) M156(NGGOO) M157(JEE) M158(KPO) M159(NGGAA) M160(JOO) M161(LONG(MBE)) M162(SEE)
M163(EE) M164(NYIN) M165(OO) M166(GUEI) M167(GUAN) M168(GU) M169(NON) M170(NYUN) M171(RA)
M172(MBOO) M173(VEE) M174(MBO) M175(LONG(JO)) M176(HI) M177(NGUAN) M178(EN) M179(KUA) M180(DOO)
M181(DO) M182(VI) M183(LONG(NGGO)) M184(NGEN) M185(VA) M186(HU) M187(MBUU) M188(MBEE) M189(MUEN)
M190(GEE) M191(NDEE) M192(NJU) M193(HON) M194(WUI) M195(AN) M196(SIA) M197(FUA))))
MENORAH(WITH(NINE(BRANCHES))) MENS(SYMBOL) MERCURY MEROITIC(CURSIVE(FRACTION(EIGHT(TWELFTHS)
ELEVEN(TWELFTHS) FIVE(TWELFTHS) FOUR(TWELFTHS) NINE(TWELFTHS) ONE(HALF TWELFTH) SEVEN(TWELFTHS)
SIX(TWELFTHS) TEN(TWELFTHS) THREE(TWELFTHS) TWO(TWELFTHS)) LETTER(A ARCHAIC(SA) BA DA E HHA I KA
KHA LA MA NA NE O PA QA RA SA SE TA TE TO WA YA) LOGOGRAM(IMN RMT) NUMBER(EIGHT.(HUNDRED.(THOUSAND)
THOUSAND) EIGHTY(THOUSAND) FIFTY.(THOUSAND) FIVE.(HUNDRED.(THOUSAND) THOUSAND) FORTY.(THOUSAND)
FOUR.(HUNDRED.(THOUSAND) THOUSAND) NINE.(HUNDRED.(THOUSAND) THOUSAND) NINETY(THOUSAND)
ONE.(HUNDRED.(THOUSAND) THOUSAND) SEVEN.(HUNDRED.(THOUSAND) THOUSAND) SEVENTY.(THOUSAND)
SIX.(HUNDRED.(THOUSAND) THOUSAND) SIXTY.(THOUSAND) TEN.(THOUSAND) THIRTY.(THOUSAND)
THREE.(HUNDRED.(THOUSAND) THOUSAND) TWENTY.(THOUSAND) TWO.(HUNDRED.(THOUSAND) THOUSAND)))
HIEROGLYPHIC(LETTER(A BA BA-2 DA E HHA I KA KHA LA MA NA NA-2 NE NE-2 O PA QA RA RA-2 SA SA-2 SE TA
TA-2 TE TE-2 TO WA YA) SYMBOL(VIDJ VIDJ-2))) MERPERSON MESSAGE(WAITING) METRICAL(BREVE
LONG(OVER(SHORT TWO(SHORTS))) PENTASEME SHORT(OVER(LONG)) TETRASEME TRISEME TWO(SHORTS(JOINED
OVER(LONG)))) METRO MIAO(LETTER(AH ARCHAIC(MA NA NGA ZZA) BA BRI DA DDA DLHA DLHYA DZA DZHA DZYI
DZZA FA GA GHA GHHA HA HHA KA LA LHA LHYA LYA MA MHA NA NASALIZATION NGA NGHA NHA NNA NNHA NYA NYHA
PA PLA QA QGA REFORMED(TONE-1 TONE-2 TONE-4 TONE-5 TONE-6 TONE-8 TSHA) RTE SA SHA SSA SYI TA TE
TLHA TLHYA TONE-2 TONE-3 TONE-4 TONE-5 TONE-6 TONE-7 TONE-8 TSA TSE TSHA TSSA TTA VA VFA WA XA
YI(DZHA KA NNA PA TA TSA TSHA TTA) ZA ZHA ZSA ZSHA ZZA ZZSA ZZSYA ZZYA) SIGN(ASPIRATION
CONSONANT(MODIFIER(BAR)) REFORMED(ASPIRATION VOICING)) TONE(ABOVE BELOW RIGHT TOP(RIGHT))
VOWEL(SIGN(A AA AE AEE AHH AI AN ANG AU E EA EI EN ENG ER ERR I IA IAN IANG IE IG II ING IO IONG IU
N NG O OER OEY OG OO OU ROUNDED(ER ERR) U UA UAN UANG UEI UI UNG UOG UU VW W WO Y YI YUI)))
MICR(DASH(SYMBOL) ON(US(SYMBOL))) MICRO(SIGN) MICROBE MICROPHONE MICROSCOPE MIDDLE(DOT
THIRD(WHITE(RIGHT(POINTING(INDEX))))) MIDLINE(HORIZONTAL(ELLIPSIS)) MILITARY(HELMET MEDAL)
MILKY(WAY) MILL(SIGN) MINIBUS MINIDISC MINIMIZE MINUS(SIGN.(IN(TRIANGLE) WITH(COMMA(ABOVE)
DOT(BELOW) FALLING(DOTS) RISING(DOTS))) TILDE) MINUS-OR-PLUS(SIGN) MINY MIRROR.(BALL) MMSP
MOBILE(PHONE.(OFF WITH(RIGHTWARDS(ARROW(AT(LEFT)))))) MODELS MODERN(PENTATHLON)
MODI(ABBREVIATION(SIGN) DANDA DIGIT(EIGHT FIVE FOUR NINE ONE SEVEN SIX THREE TWO ZERO)
DOUBLE(DANDA) LETTER(A AA AI AU BA BHA CA CHA DA DDA DDHA DHA E GA GHA HA I II JA JHA KA KHA LA LLA
MA NA NGA NNA NYA O PA PHA RA SA SHA SSA TA THA TTA TTHA U UU VA VOCALIC(L LL R RR) YA)
SIGN(ANUSVARA ARDHACANDRA HUVA VIRAMA VISARGA) VOWEL(SIGN(AA AI AU E I II O U UU VOCALIC(L LL R
RR)))) MODIFIER(BREVE(WITH(INVERTED(BREVE))) LETTER(ACUTE(ACCENT) ALVEOLAR(CLICK) APOSTROPHE
BEGIN(HIGH(TONE) LOW(TONE)) BILABIAL(CLICK) CAPITAL(A AE B BARRED(B) C D E F G H.(WITH(STROKE)) I J
K L M N O OU P Q R REVERSED(E N) T U V W) CENTRED(LEFT(HALF(RING)) RIGHT(HALF(RING)))
CHINESE(TONE(YANG(PING QU RU SHANG) YIN(PING QU RU SHANG))) CIRCUMFLEX(ACCENT) COLON CROSS(ACCENT)
CYRILLIC(EN HARD(SIGN) SOFT(SIGN)) DENTAL(CLICK) DOT(HORIZONTAL(BAR) SLASH VERTICAL(BAR))
DOUBLE(APOSTROPHE PRIME) DOWN(ARROWHEAD TACK) END(HIGH(TONE) LOW(TONE))
EXTRA-HIGH(DOTTED(LEFT-STEM(TONE(BAR)) TONE(BAR)) LEFT-STEM(TONE(BAR)) TONE(BAR))
EXTRA-LOW(DOTTED(LEFT-STEM(TONE(BAR)) TONE(BAR)) LEFT-STEM(TONE(BAR)) TONE(BAR)) GEORGIAN(NAR)
GLOTTAL(STOP.(WITH(STROKE))) GRAVE(ACCENT) HALF(TRIANGULAR(COLON)) HIGH(DOTTED(LEFT-STEM(TONE(BAR))
TONE(BAR)) LEFT-STEM(TONE(BAR)) TONE(BAR)) LATERAL(CLICK) LEFT(ARROWHEAD HALF(RING) TACK)
LOW(ACUTE(ACCENT) CIRCUMFLEX(ACCENT) DOTTED(LEFT-STEM(TONE(BAR)) TONE(BAR)) DOWN(ARROWHEAD)
GRAVE(ACCENT) INVERTED(EXCLAMATION(MARK)) LEFT(ARROW ARROWHEAD) LEFT-STEM(TONE(BAR)) MACRON
RIGHT(ARROWHEAD) RING TILDE TONE(BAR) UP(ARROWHEAD) VERTICAL(LINE)) LOWER(RIGHT(CORNER(ANGLE)))
MACRON MID(DOTTED(LEFT-STEM(TONE(BAR)) TONE(BAR)) LEFT-STEM(TONE(BAR)) TONE(BAR))
MIDDLE(DOUBLE(ACUTE(ACCENT) GRAVE(ACCENT)) GRAVE(ACCENT)) MINUS(SIGN) OPEN(SHELF) PLUS(SIGN) PRIME
RAISED(COLON DOWN(ARROW) EXCLAMATION(MARK) INVERTED(EXCLAMATION(MARK)) UP(ARROW))
RETROFLEX(CLICK(WITH(RETROFLEX(HOOK)))) REVERSED(COMMA GLOTTAL(STOP.(WITH(STROKE)))) RHOTIC(HOOK)
RIGHT(ARROWHEAD HALF(RING) TACK) SHELF SHORT(EQUALS(SIGN)) SMALL(A AE AIN ALPHA B.(WITH(HOOK))
BARRED(O) BETA BOTTOM(HALF(O)) C.(WITH(CURL)) CAPITAL(AA B G.(WITH(HOOK)) H I.(WITH(STROKE))
INVERTED(R) L.(WITH(BELT)) N OE R U Y) CHI CLOSED(OMEGA REVERSED(OPEN(E))) D.(WITH(HOOK.(AND(TAIL))
TAIL)) DELTA DEZH(DIGRAPH) DOTLESS(J(WITH(STROKE.(AND(HOOK))))) DZ(DIGRAPH.(WITH(CURL
RETROFLEX(HOOK)))) E ENG ESH ETH EZH F FENG(DIGRAPH) G.(WITH(HOOK)) GAMMA GREEK(GAMMA PHI)
H.(WITH(HOOK STROKE)) HENG.(WITH(HOOK)) I(WITH(STROKE)) IOTA J.(WITH(CROSSED-TAIL)) K L.(WITH(BELT
INVERTED(LAZY(S)) MIDDLE(TILDE) PALATAL(HOOK) RETROFLEX(HOOK.(AND(BELT)))))
LEZH.(WITH(RETROFLEX(HOOK))) LIGATURE(OE) LS(DIGRAPH) LZ(DIGRAPH) M.(WITH(HOOK)) N(WITH(LEFT(HOOK)
RETROFLEX(HOOK))) O.(WITH(STROKE)) OPEN(E O) P PHI Q R.(WITH(FISHHOOK TAIL)) RAMS(HORN) REVERSED(E
GLOTTAL(STOP) OPEN(E)) S.(WITH(CURL HOOK)) SCHWA SCRIPT(G) SIDEWAYS(U) T.(WITH(PALATAL(HOOK)
RETROFLEX(HOOK))) TC(DIGRAPH(WITH(CURL))) TESH(DIGRAPH) THETA TOP(HALF(O))
TS(DIGRAPH.(WITH(RETROFLEX(HOOK)))) TURNED(A AE ALPHA H I M.(WITH(LONG(LEG))) OPEN(E) R.(WITH(HOOK
LONG(LEG.(AND(RETROFLEX(HOOK)))))) V W Y.(WITH(BELT))) U.(BAR WITH(LEFT(HOOK))) UPSILON
V.(WITH(HOOK RIGHT(HOOK))) W X Y Z.(WITH(CURL RETROFLEX(HOOK)))) STRESS(AND(HIGH(TONE) LOW(TONE)))
SUPERSCRIPT(HALF(TRIANGULAR(COLON)) TRIANGULAR(COLON)) TRIANGULAR(COLON) TURNED(COMMA) UNASPIRATED
UP(ARROWHEAD TACK) US VERTICAL(LINE) VOICING YANG(DEPARTING(TONE(MARK)))
YIN(DEPARTING(TONE(MARK))))) MODULO(TWO(SUM)) MONEY(BAG WITH(WINGS)) MONEY-MOUTH(FACE)
MONGOLIAN(BIRGA.(WITH(DOUBLE(ORNAMENT) ORNAMENT)) COLON COMMA DIGIT(EIGHT FIVE FOUR NINE ONE SEVEN
SIX THREE TWO ZERO) DOUBLE(BIRGA(WITH(ORNAMENT))) ELLIPSIS FOUR(DOTS) FREE(VARIATION(SELECTOR(FOUR
ONE THREE TWO))) FULL(STOP) INVERTED(BIRGA.(WITH(DOUBLE(ORNAMENT)))) LETTER(A ALI(GALI(A AH
ANUSVARA(ONE) BALUDA CA DA DAGALGA DAMARU DDA HALF(U YA) I INVERTED(UBADAMA) KA NGA NNA PA PHA SSA
TA THREE(BALUDA) TTA TTHA UBADAMA VISARGA(ONE) ZA ZHA)) ANG BA CHA.(WITH(TWO(DOTS))) CHI DA E EE FA
GA HAA I JA KA KHA LA LHA MA MANCHU(ALI(GALI(BHA CA CYA DDHA DHA GHA JHA LHA NGA SSA TA TTA ZA
ZHA)) FA I KA RA ZHA) NA O OE PA QA RA SA SHA SIBE(ANG CHA DA E FA GA GAA HA HAA I IY JA KA PA RAA
SHA TA TSA U UE ZA ZHA) TA TODO(ALI(GALI(TA ZHA)) ANG BA CHA DA DZA E GA GAA HAA I JA JIA KA
LONG(VOWEL(SIGN)) MA NIA O OE PA QA TA TSA U UE WA YA) TSA U UE WA YA ZA ZHI ZRA) MANCHU(COMMA
FULL(STOP)) NIRUGU ROTATED(BIRGA.(WITH(DOUBLE(ORNAMENT) ORNAMENT)))
SIBE(SYLLABLE(BOUNDARY(MARKER))) SWIRL(BIRGA.(WITH(DOUBLE(ORNAMENT) ORNAMENT))) TODO(SOFT(HYPHEN))
TRIPLE(BIRGA(WITH(ORNAMENT))) TURNED(SWIRL(BIRGA(WITH(DOUBLE(ORNAMENT))))) VOWEL(SEPARATOR))
MONKEY.(FACE) MONOGRAM(FOR(EARTH YANG YIN)) MONORAIL MONOSTABLE(SYMBOL) MOOD(BUBBLE) MOON(CAKE
VIEWING(CEREMONY)) MOSQUE MOSQUITO MOTHER(CHRISTMAS) MOTOR(BOAT SCOOTER) MOTORIZED(WHEELCHAIR)
MOTORWAY MOUNT(FUJI) MOUNTAIN.(BICYCLIST CABLEWAY RAILWAY) MOUSE.(FACE TRAP) MOUTH MOVIE(CAMERA)
MOYAI MRO(DANDA DIGIT(EIGHT FIVE FOUR NINE ONE SEVEN SIX THREE TWO ZERO) DOUBLE(DANDA) LETTER(A BA
CHU DA DAI E EA HAI HAO KEAAE KHAI KO LA LAN MAEM MIM NGI NIN O OL OO PA PHI RI RO SHI TA TEK THEA
WA YO)) MUCH(GREATER-THAN LESS-THAN) MULTANI(LETTER(A BA BHA CA CHA DA DDA DDDA DDHA DHA E GA GHA
HA I JA JJA KA KHA LA MA NA NNA NYA PA PHA RA RHA RRA SA TA THA TTA TTHA U VA YA) SECTION(MARK))
MULTIMAP MULTIPLE(MUSICAL(NOTES)) MULTIPLICATION(SIGN.(IN(DOUBLE(CIRCLE) LEFT(HALF(CIRCLE))
RIGHT(HALF(CIRCLE)) TRIANGLE) WITH(DOT(ABOVE) UNDERBAR)) X) MULTISET.(MULTIPLICATION UNION)
MUSHROOM MUSIC(FLAT(SIGN) NATURAL(SIGN) SHARP(SIGN)) MUSICAL(KEYBOARD.(WITH(JACKS)) NOTE SCORE
SYMBOL(ARPEGGIATO(DOWN UP) BEGIN(BEAM PHRASE SLUR TIE) BRACE BRACKET BREATH(MARK) BREVE
BREVIS.(REST) C(CLEF) CAESURA CIRCLE(X(NOTEHEAD)) CLIMACUS CLIVIS CLUSTER(NOTEHEAD(BLACK WHITE))
CODA COMBINING(ACCENT ACCENT-STACCATO AUGMENTATION(DOT) BEND DOIT DOUBLE(TONGUE) DOWN(BOW) FLAG-1
FLAG-2 FLAG-3 FLAG-4 FLAG-5 FLIP HARMONIC LOURE MARCATO MARCATO-STACCATO RIP SMEAR SNAP(PIZZICATO)
SPRECHGESANG(STEM) STACCATISSIMO STACCATO STEM TENUTO TREMOLO-1 TREMOLO-2 TREMOLO-3 TRIPLE(TONGUE)
UP(BOW)) COMMON(TIME) CRESCENDO CROIX CUT(TIME) DA(CAPO) DAL(SEGNO) DAMP.(ALL) DASHED(BARLINE)
DECRESCENDO DEGREE(SLASH) DOUBLE(BARLINE FLAT SHARP) DRUM(CLEF-1 CLEF-2) EIGHTH(NOTE REST) END(BEAM
OF(STIMME) PHRASE SLUR TIE) F(CLEF.(OTTAVA(ALTA BASSA))) FERMATA.(BELOW) FINAL(BARLINE)
FINGERED(TREMOLO-1 TREMOLO-2 TREMOLO-3) FIVE-LINE(STAFF) FLAT(DOWN UP) FORTE FOUR-LINE(STAFF)
FOUR-STRING(FRETBOARD) FUSA(BLACK WHITE) G(CLEF.(OTTAVA(ALTA BASSA))) GLISSANDO(DOWN UP)
GRACE(NOTE(NO(SLASH) SLASH)) GREGORIAN(C(CLEF) F(CLEF)) HALF(NOTE PEDAL(MARK) REST) HAUPTSTIMME
INVERTED(TURN) KIEVAN(C(CLEF) EIGHTH(NOTE(STEM(DOWN UP))) END(OF(PIECE)) FINAL(NOTE) FLAT(SIGN)
HALF(NOTE) QUARTER(NOTE(STEM(DOWN UP))) RECITATIVE(MARK) WHOLE(NOTE)) KORON LEFT(REPEAT(SIGN))
LONGA.(IMPERFECTA(REST) PERFECTA(REST)) MAXIMA MEZZO MINIMA.(BLACK REST) MOON(NOTEHEAD(BLACK
WHITE)) MULTI(REST) MULTIPLE(MEASURE(REST)) NATURAL(DOWN UP) NEBENSTIMME NOTEHEAD(BLACK)
NULL(NOTEHEAD) ONE(HUNDRED(TWENTY-EIGHTH(NOTE REST))) ONE-LINE(STAFF) ORNAMENT(STROKE-1 STROKE-10
STROKE-11 STROKE-2 STROKE-3 STROKE-4 STROKE-5 STROKE-6 STROKE-7 STROKE-8 STROKE-9) OTTAVA(ALTA
BASSA) PARENTHESIS(NOTEHEAD) PEDAL(MARK UP(MARK)) PES(SUBPUNCTIS) PIANO PLUS(NOTEHEAD) PODATUS
PORRECTUS.(FLEXUS) QUARTER(NOTE REST TONE(FLAT SHARP)) QUINDICESIMA(ALTA BASSA) REPEAT(DOTS)
REPEATED(FIGURE-1 FIGURE-2 FIGURE-3) REVERSE(FINAL(BARLINE)) RIGHT(REPEAT(SIGN)) RINFORZANDO
SCANDICUS.(FLEXUS) SEGNO SEMIBREVIS(BLACK REST WHITE) SEMIMINIMA(BLACK REST WHITE) SHARP(DOWN UP)
SHORT(BARLINE) SINGLE(BARLINE) SIX-LINE(STAFF) SIX-STRING(FRETBOARD) SIXTEENTH(NOTE REST)
SIXTY-FOURTH(NOTE REST) SORI SQUARE(B NOTEHEAD(BLACK WHITE)) SUBITO
TEMPUS(IMPERFECTUM(CUM(PROLATIONE(IMPERFECTA.(DIMINUTION-1 DIMINUTION-2 DIMINUTION-3) PERFECTA)))
PERFECTUM(CUM(PROLATIONE(IMPERFECTA PERFECTA.(DIMINUTION-1))))) THIRTY-SECOND(NOTE REST)
THREE-LINE(STAFF) TORCULUS.(RESUPINUS) TR TRIANGLE(NOTEHEAD(DOWN(BLACK WHITE) LEFT(BLACK WHITE)
RIGHT(BLACK WHITE) UP(BLACK RIGHT(BLACK WHITE) WHITE))) TRIANGLE-ROUND(NOTEHEAD(DOWN(BLACK WHITE)))
TURN.(SLASH UP) TWO-LINE(STAFF) VIRGA VOID(NOTEHEAD) WHOLE(NOTE REST) WITH(FINGERNAILS) X(NOTEHEAD)
Z)) MVS MW MYANMAR(CONSONANT(SIGN(MEDIAL(HA RA WA YA) MON(MEDIAL(LA MA NA)) SHAN(MEDIAL(WA))))
DIGIT(EIGHT FIVE FOUR NINE ONE SEVEN SIX THREE TWO ZERO) LETTER(A AITON(RA) AU BA BHA CA CHA DA DDA
DDHA DHA E EASTERN(PWO(KAREN(GHWA NNA YWA))) GA GHA GREAT(SA) HA I II JA JHA KA KHA KHAMTI(CA CHA
DDA DDHA DHA FA GA HA HHA JA JHA LLA NA NYA RA SA TTA TTHA XA ZA) LA LLA MA MON(BBA BBE E JHA NGA)
NA NGA NNA NNYA NYA O PA PHA RA RUMAI(PALAUNG(FA)) SA SGAW(KAREN(SHA)) SHA SHAN(A BA BHA CA CHA DA
FA GA GHA HA JHA KA KHA NA NNA NYA PHA THA ZA) SHWE(PALAUNG(CHA SHA)) SSA TA TAI(LAING(BA BHA DA
DDA DDHA DHA FA GA GHA JA JHA LLA NNA NYA)) THA TTA TTHA U UU VOCALIC(L LL R RR) WA
WESTERN(PWO(KAREN(PWA THA))) YA) LOGOGRAM(KHAMTI(HM OAY QN)) MODIFIER(LETTER(KHAMTI(REDUPLICATION)
SHAN(REDUPLICATION))) SHAN(DIGIT(EIGHT FIVE FOUR NINE ONE SEVEN SIX THREE TWO ZERO)) SIGN(ANUSVARA
ASAT DOT(BELOW) KHAMTI(TONE-1 TONE-3) LITTLE(SECTION) PAO(KAREN(TONE)) RUMAI(PALAUNG(TONE-5))
SECTION SHAN(COUNCIL(EMPHATIC(TONE) TONE-2 TONE-3) SAW TONE-2 TONE-3 TONE-5 TONE-6)
TAI(LAING(TONE-2 TONE-5)) VIRAMA VISARGA WESTERN(PWO(KAREN(TONE-1 TONE-2 TONE-3 TONE-4 TONE-5))))
SYMBOL(AFOREMENTIONED AITON(EXCLAMATION ONE TWO) COMPLETED GENITIVE LOCATIVE SHAN(EXCLAMATION ONE))
TAI(LAING(DIGIT(EIGHT FIVE FOUR NINE ONE SEVEN SIX THREE TWO ZERO))) TONE(MARK(SGAW(KAREN(HATHI
KE(PHO))))) VOWEL(SIGN(AA AI AITON(A AI) E.(ABOVE) GEBA(KAREN(I)) I II KAYAH(EE OE U) MON(II O)
SGAW(KAREN(EU)) SHAN(AA E.(ABOVE) FINAL(Y)) TALL(AA) U UU VOCALIC(L LL R RR) WESTERN(PWO(KAREN(EU
UE)))))) N-ARY(CIRCLED(DOT(OPERATOR) PLUS(OPERATOR) TIMES(OPERATOR)) COPRODUCT INTERSECTION
LOGICAL(AND OR) PRODUCT SQUARE(INTERSECTION(OPERATOR) UNION(OPERATOR)) SUMMATION TIMES(OPERATOR)
UNION.(OPERATOR(WITH(DOT PLUS))) WHITE(VERTICAL(BAR))) NABATAEAN(CRUCIFORM(NUMBER(FOUR))
LETTER(ALEPH AYIN BETH DALETH FINAL(ALEPH BETH HE KAPH LAMEDH MEM NUN SHIN YODH) GIMEL HE HETH KAPH
LAMEDH MEM NUN PE QOPH RESH SADHE SAMEKH SHIN TAW TETH WAW YODH ZAYIN) NUMBER(FIVE FOUR
ONE.(HUNDRED) TEN THREE TWENTY TWO)) NABLA NAIL(POLISH) NAIRA(SIGN) NAK NAME(BADGE) NAND
NANDINAGARI(HEADSTROKE LETTER(A AA AI AU BA BHA CA CHA DA DDA DDHA DHA E GA GHA HA I II JA JHA KA
KHA LA LLA MA NA NGA NNA NYA O PA PHA RA RRA SA SHA SSA TA THA TTA TTHA U UU VA VOCALIC(R RR) YA)
SIGN(ANUSVARA AVAGRAHA SIDDHAM VIRAMA VISARGA) VOWEL(SIGN(AA AI AU E I II O PRISHTHAMATRA(E) U UU
VOCALIC(R RR)))) NARROW(NO-BREAK(SPACE)) NATIONAL(DIGIT(SHAPES) PARK) NAUSEATED(FACE) NAZAR(AMULET)
NBH NBSP NECKTIE NEGATED(DOUBLE(VERTICAL(BAR(DOUBLE(RIGHT(TURNSTILE)))))) NEGATIVE(ACKNOWLEDGE
CIRCLED(DIGIT(ZERO) LATIN(CAPITAL(LETTER(A B C D E F G H I J K L M N O P Q R S T U V W X Y Z)))
NUMBER(EIGHTEEN ELEVEN FIFTEEN FOURTEEN NINETEEN SEVENTEEN SIXTEEN THIRTEEN TWELVE TWENTY) SQUARE
TRIANGLE) DIAGONAL(CROSS DIAMOND MIDDLE(RIGHT(TO(LOWER(CENTRE))))) SQUARED(AB CROSS(MARK) IC
LATIN(CAPITAL(LETTER(A B C D E F G H I J K L M N O P Q R S T U V W X Y Z))) PA QUESTION(MARK) SA
WC)) NEITHER(A(SUBSET(OF(NOR(EQUAL(TO)))) SUPERSET(OF(NOR(EQUAL(TO)))))
APPROXIMATELY(NOR(ACTUALLY(EQUAL(TO)))) GREATER-THAN(NOR(EQUAL(TO) EQUIVALENT(TO) LESS-THAN))
LESS-THAN(NOR(EQUAL(TO) EQUIVALENT(TO) GREATER-THAN))) NEL NEPTUNE.(FORM(TWO)) NERD(FACE) NESSUS
NEST(WITH(EGGS)) NESTING(DOLLS) NEUTER NEUTRAL(CHESS(BISHOP.(ROTATED(NINETY(DEGREES)
TWO(HUNDRED(SEVENTY(DEGREES))))) EQUIHOPPER.(ROTATED(NINETY(DEGREES)))
KING.(ROTATED(NINETY(DEGREES) TWO(HUNDRED(SEVENTY(DEGREES))))) KNIGHT.(ROTATED(FORTY-FIVE(DEGREES)
NINETY(DEGREES) ONE(HUNDRED(THIRTY-FIVE(DEGREES))) THREE(HUNDRED(FIFTEEN(DEGREES)))
TWO(HUNDRED(SEVENTY(DEGREES) TWENTY-FIVE(DEGREES))))) PAWN.(ROTATED(NINETY(DEGREES)
TWO(HUNDRED(SEVENTY(DEGREES))))) QUEEN.(ROTATED(NINETY(DEGREES) TWO(HUNDRED(SEVENTY(DEGREES)))))
ROOK.(ROTATED(NINETY(DEGREES) TWO(HUNDRED(SEVENTY(DEGREES))))) TURNED(BISHOP KING KNIGHT PAWN QUEEN
ROOK)) FACE) NEW(LINE MOON(SYMBOL WITH(FACE)) SHEQEL(SIGN) TAI(LUE(DIGIT(EIGHT FIVE FOUR NINE ONE
SEVEN SIX THREE TWO ZERO) LETTER(FINAL(B D K M N NG V) HIGH(BA DA FA HA KA KVA LA MA NA NGA PA PHA
QA SA SUA TA THA TSA VA XA XVA YA) LOW(BA DA FA HA KA KVA LA MA NA NGA PA PHA QA SA SUA TA THA TSA
VA XA XVA YA)) SIGN(LAE LAEV) THAM(DIGIT(ONE)) TONE(MARK-1 MARK-2) VOWEL(SIGN(AA AAY AE AY E II IY
O OA OAY OY U UE UEY UU UY VOWEL(SHORTENER)))))) NEWA(ABBREVIATION(SIGN) COMMA DANDA DIGIT(EIGHT
FIVE FOUR NINE ONE SEVEN SIX THREE TWO ZERO) DOUBLE(COMMA DANDA) GAP(FILLER) INSERTION(SIGN)
LETTER(A AA AI AU BA BHA CA CHA DA DDA DDHA DHA E GA GHA HA I II JA JHA KA KHA LA LHA MA MHA NA NGA
NGHA NHA NNA NYA NYHA O PA PHA RA RHA SA SHA SSA TA THA TTA TTHA U UU VEDIC(ANUSVARA) VOCALIC(L LL
R RR) WA YA) OM PLACEHOLDER(MARK) SANDHI(MARK) SIDDHI SIGN(ANUSVARA AVAGRAHA CANDRABINDU
FINAL(ANUSVARA) JIHVAMULIYA NUKTA UPADHMANIYA VIRAMA VISARGA) VOWEL(SIGN(AA AI AU E I II O U UU
VOCALIC(L LL R RR)))) NEWLINE(LEFT RIGHT) NEWSPAPER NEXT(LINE PAGE) NIGHT(WITH(STARS)) NINJA
NKO(COMBINING(DOUBLE(DOT(ABOVE)) LONG(DESCENDING(TONE) HIGH(TONE) LOW(TONE) RISING(TONE))
NASALIZATION(MARK) SHORT(HIGH(TONE) LOW(TONE) RISING(TONE))) COMMA DANTAYALAN DIGIT(EIGHT FIVE FOUR
NINE ONE SEVEN SIX THREE TWO ZERO) DOROME(SIGN) EXCLAMATION(MARK) HIGH(TONE(APOSTROPHE)) LAJANYALAN
LETTER(A BA CHA DA DAGBASINNA E EE FA GBA HA I JA JONA(CHA JA RA) KA LA MA N NA.(WOLOSO)
NYA.(WOLOSO) O OO PA RA RRA SA TA U WA YA) LOW(TONE(APOSTROPHE)) SYMBOL(GBAKURUNEN OO(DENNEN))
TAMAN(SIGN)) NL NNBSP NO(BICYCLES BREAK(HERE) ENTRY.(SIGN) MOBILE(PHONES)
ONE(UNDER(EIGHTEEN(SYMBOL))) PEDESTRIANS PIRACY SMOKING(SYMBOL)) NO-BREAK(SPACE)
NOMINAL(DIGIT(SHAPES)) NOMISMA(SIGN) NON-BREAKING(HYPHEN) NON-POTABLE(WATER(SYMBOL)) NONFORKING NOR
NORDIC(MARK(SIGN)) NORMAL(SUBGROUP(OF.(OR(EQUAL(TO))))) NORTH(EAST(AND(SOUTH(WEST(ARROW)))
ARROW.(AND(SOUTH(EAST(ARROW))) CROSSING(NORTH(WEST(ARROW)) SOUTH(EAST(ARROW))) WITH(HOOK))
BLACK(ARROW) DOUBLE(ARROW) POINTING(BUD LEAF VINE(LEAF)) SANS-SERIF(ARROW)
TRIANGLE-HEADED(ARROW.(TO(BAR))) WHITE(ARROW)) INDIC(FRACTION(ONE(EIGHTH HALF QUARTER SIXTEENTH)
THREE(QUARTERS SIXTEENTHS)) PLACEHOLDER(MARK) QUANTITY(MARK) QUARTER(MARK) RUPEE(MARK))
WEST(AND(SOUTH(EAST(ARROW))) ARROW.(AND(NORTH(EAST(ARROW))) CROSSING(NORTH(EAST(ARROW))) TO(CORNER
LONG(BAR)) WITH(HOOK)) BLACK(ARROW) DOUBLE(ARROW) POINTING(BUD LEAF VINE(LEAF)) SANS-SERIF(ARROW)
TRIANGLE-HEADED(ARROW.(TO(BAR))) WHITE(ARROW))) NORTHEAST-POINTING(AIRPLANE) NOSE NOT(A(SUBSET(OF)
SUPERSET(OF)) ALMOST(EQUAL(TO)) AN(ELEMENT(OF)) ASYMPTOTICALLY(EQUAL(TO)) CHECK(MARK) EQUAL(TO)
EQUIVALENT(TO) GREATER-THAN IDENTICAL(TO) LESS-THAN NORMAL(SUBGROUP(OF.(OR(EQUAL(TO)))))
PARALLEL(TO) SIGN SQUARE(IMAGE(OF(OR(EQUAL(TO)))) ORIGINAL(OF(OR(EQUAL(TO))))) TILDE TRUE)
NOTCHED(LEFT(SEMICIRCLE(WITH(THREE(DOTS)))) LOWER(RIGHT-SHADOWED(WHITE(RIGHTWARDS(ARROW))))
RIGHT(SEMICIRCLE(WITH(THREE(DOTS)))) UPPER(RIGHT-SHADOWED(WHITE(RIGHTWARDS(ARROW))))) NOTE.(PAD
PAGE) NOTEBOOK.(WITH(DECORATIVE(COVER))) NUL NULL NUMBER(EIGHTEEN(FULL(STOP)) ELEVEN(FULL(STOP))
FIFTEEN(FULL(STOP)) FOURTEEN(FULL(STOP)) NINETEEN(FULL(STOP)) SEVENTEEN(FULL(STOP)) SIGN
SIXTEEN(FULL(STOP)) TEN(FULL(STOP)) THIRTEEN(FULL(STOP)) TWELVE(FULL(STOP)) TWENTY(FULL(STOP)))
NUMERO(SIGN) NUSHU(ITERATION(MARK)) NUT(AND(BOLT)) NYIAKENG(PUACHUE(HMONG(CIRCLED(CA) DIGIT(EIGHT
FIVE FOUR NINE ONE SEVEN SIX THREE TWO ZERO) LETTER(A AA CA DA DLA E EE FA GA HA HAH I KA LA MA MLA
NA NCA NKA NPA NPLA NQA NRA NTA NTSA NTXA NYA O OO PA PLA QA RA RRA SA TA TSA TXA U VA W XA XYA YA
ZA) LOGOGRAM(NYAJ) SIGN(FOR(ANIMAL INVERTEBRATE LOCATION PERSON THING) XW(XW)) SYLLABLE(LENGTHENER)
TONE-B TONE-D TONE-G TONE-J TONE-M TONE-S TONE-V))) OBJECT(REPLACEMENT(CHARACTER))
OBLIQUE(ANGLE(OPENING(DOWN UP)) HYPHEN) OBSERVER(EYE(SYMBOL)) OCR(AMOUNT(OF(CHECK)) BELT(BUCKLE)
BOW(TIE) BRANCH(BANK(IDENTIFICATION)) CHAIR CUSTOMER(ACCOUNT(NUMBER)) DASH DOUBLE(BACKSLASH) FORK
HOOK INVERTED(FORK)) OCTAGONAL(SIGN) OCTOPUS ODEN OFFICE(BUILDING) OGHAM(FEATHER(MARK) LETTER(AILM
BEITH CEIRT COLL DAIR EABHADH EADHADH EAMHANCHOLL FEARN GORT IFIN IODHADH LUIS MUIN NGEADAL NION
ONN OR PEITH RUIS SAIL STRAIF TINNE UATH UILLEANN UR) REVERSED(FEATHER(MARK)) SPACE(MARK)) OGONEK
OHM(SIGN) OIL(DRUM) OK(HAND(SIGN)) OL(CHIKI(AHAD DIGIT(EIGHT FIVE FOUR NINE ONE SEVEN SIX THREE TWO
ZERO) GAAHLAA(TTUDDAAG) LETTER(AAJ AAK AAM AAW AG AL ANG AT EDD EN EP ERR IH INY IR IS LA LAA LE LI
LO LU OB OH OTT OV UC UD UNN UY) MU(TTUDDAG) MU-GAAHLAA(TTUDDAAG) PHAARKAA
PUNCTUATION(DOUBLE(MUCAAD) MUCAAD) RELAA)) OLD(CHINESE(HOOK(MARK) ITERATION(MARK))
HUNGARIAN(CAPITAL(LETTER(A AA AK AMB AND CLOSE(E) E EB EC ECH ECS ED EE EF EG EGY EH EJ EK EL ELY
EM EMP EN ENC ENT ENT-SHAPED(SIGN) ENY EP ER ES ESZ ET ETY EV EZ EZS I II NIKOLSBURG(OE UE) O OEE
OO RUDIMENTA(OE UE) SHORT(ER) U UNK US UU)) NUMBER(FIFTY FIVE ONE.(HUNDRED THOUSAND) TEN)
SMALL(LETTER(A AA AK AMB AND CLOSE(E) E EB EC ECH ECS ED EE EF EG EGY EH EJ EK EL ELY EM EMP EN ENC
ENT ENT-SHAPED(SIGN) ENY EP ER ES ESZ ET ETY EV EZ EZS I II NIKOLSBURG(OE UE) O OEE OO RUDIMENTA(OE
UE) SHORT(ER) U UNK US UU))) ITALIC(LETTER(A BE CHE DE E EF EKS EL EM EN ER ERS ES ESH ESS HE I II
KA KE KHE KU NORTHERN(TSE) O PE PHE SHE SOUTHERN(TSE) TE THE U UU VE YE ZE) NUMERAL(FIFTY FIVE ONE
TEN)) KEY NORTH(ARABIAN(LETTER(AIN ALEF BEH DAD DAL ES-1 ES-2 ES-3 FEH GEEM GHAIN HAH HEH KAF KHAH
LAM MEEM NOON QAF REH SAD TAH TEH THAL THEH WAW YEH ZAH ZAIN) NUMBER(ONE TEN TWENTY)))
PERMIC(LETTER(AN BUR CHERY DOI DZHOI DZITA E EF GAI HA I IA IE KOKE LEI MENOE NENOE O OO PEEI REI
SHCHOOI SHOOI SII TAI TSIU U VER VOOI YA YAT YER YERI YERU YRY YU ZATA ZHOI))
PERSIAN(NUMBER(HUNDRED ONE TEN TWENTY TWO) SIGN(A AURAMAZDAA AURAMAZDAA-2 AURAMAZDAAHA BA BAGA
BUUMISH CA DA DAHYAAUSH DAHYAAUSH-2 DI DU FA GA GU HA I JA JI KA KU LA MA MI MU NA NU PA RA RU SA
SHA SSA TA THA TU U VA VI XA XSHAAYATHIYA YA ZA) WORD(DIVIDER)) PERSONAL(COMPUTER)
SOGDIAN(FRACTION(ONE(HALF)) LETTER(ALEPH ALTERNATE(AYIN) AYIN BETH FINAL(ALEPH BETH HE
NUN.(WITH(VERTICAL(TAIL))) SADHE.(WITH(VERTICAL(TAIL))) TAW.(WITH(VERTICAL(TAIL)))) GIMEL HE HETH
KAPH LAMEDH MEM NUN PE RESH-AYIN-DALETH SADHE SAMEKH SHIN TAW WAW YODH ZAYIN) LIGATURE(AYIN-DALETH)
NUMBER(FIVE FOUR ONE.(HUNDRED) TEN THIRTY THREE TWENTY TWO)) SOUTH(ARABIAN(LETTER(ALEF AYN BETH
DALETH DHADHE DHALETH FE GHAYN GIMEL HE HETH KAPH KHETH LAMEDH MEM NUN QOPH RESH SADHE SAMEKH SAT
SHIN TAW TETH THAW THETH WAW YODH ZAYN) NUMBER(FIFTY ONE) NUMERIC(INDICATOR)))
TURKIC(LETTER(ORKHON(A AB AD AEB AED AEG AEK AEL AEN AER AES AET AEY AG AL AN AQ AR AS ASH AT AY
BASH EC ELT EM ENC ENG ENT ENY EP ESH EZ I IC IQ O OE OEK OP OQ OT) YENISEI(A AB AD AE AEB AEG AEK
AEN AENG AET AEY AG AL ANG AQ AR ASH AT AY E EC ENC ENT ENY ESH EZ I IQ OE OEK OQ)))
UYGHUR(COMBINING(DOT(ABOVE BELOW) TWO(DOTS(ABOVE BELOW))) LETTER(ALEPH BETH FINAL(HETH) GIMEL-HETH
KAPH LAMEDH LESH MEM NUN PE RESH SADHE SAMEKH SHIN TAW WAW YODH ZAYIN) PUNCTUATION(BAR FOUR(DOTS)
TWO(BARS DOTS)))) OLDER(ADULT MAN WOMAN) OLIVE OM(SYMBOL)
ON(WITH(EXCLAMATION(MARK(WITH(LEFT(RIGHT(ARROW(ABOVE)))))))) ONCOMING(AUTOMOBILE BUS FIRE(ENGINE)
POLICE(CAR) TAXI) ONE(BUTTON(MOUSE) DOT(LEADER OVER(TWO(DOTS(PUNCTUATION))))) ONE-PIECE(SWIMSUIT)
ONION OPEN(BOOK BOX CENTRE(ASTERISK BLACK(STAR) CROSS TEARDROP-SPOKED(ASTERISK)) FILE(FOLDER)
FOLDER HANDS(SIGN) LOCK MAILBOX(WITH(LOWERED(FLAG) RAISED(FLAG))) SUBSET SUPERSET)
OPEN-CIRCUIT-OUTPUT(H-TYPE(SYMBOL) L-TYPE(SYMBOL)) OPEN-OUTLINED(RIGHTWARDS(ARROW))
OPERATING(SYSTEM(COMMAND)) OPHIUCHUS OPPOSITION OPTICAL(DISC.(ICON)) OPTION(KEY)
OR(WITH(DOT(INSIDE))) ORANGE(BOOK HEART) ORANGUTAN ORIGINAL(OF) ORIYA(AI(LENGTH(MARK))
AU(LENGTH(MARK)) DIGIT(EIGHT FIVE FOUR NINE ONE SEVEN SIX THREE TWO ZERO) FRACTION(ONE(EIGHTH HALF
QUARTER SIXTEENTH) THREE(QUARTERS SIXTEENTHS)) ISSHAR LETTER(A AA AI AU BA BHA CA CHA DA DDA DDHA
DHA E GA GHA HA I II JA JHA KA KHA LA LLA MA NA NGA NNA NYA O PA PHA RA RHA RRA SA SHA SSA TA THA
TTA TTHA U UU VA VOCALIC(L LL R RR) WA YA YYA) SIGN(ANUSVARA AVAGRAHA CANDRABINDU NUKTA OVERLINE
VIRAMA VISARGA) VOWEL(SIGN(AA AI AU E I II O U UU VOCALIC(L LL R RR)))) ORNATE(LEFT(PARENTHESIS)
RIGHT(PARENTHESIS)) ORTHODOX(CROSS) OSAGE(CAPITAL(LETTER(A AH AI AIN BRA CHA DHA E EHCHA EHKA EHPA
EHTA EHTSA EIN GHA HA HYA I KA KHA KYA LA MA NA O OIN PA SA SHA TA TSA TSHA U WA ZA ZHA))
SMALL(LETTER(A AH AI AIN BRA CHA DHA E EHCHA EHKA EHPA EHTA EHTSA EIN GHA HA HYA I KA KHA KYA LA MA
NA O OIN PA SA SHA TA TSA TSHA U WA ZA ZHA))) OSC OSMANYA(DIGIT(EIGHT FIVE FOUR NINE ONE SEVEN SIX
THREE TWO ZERO) LETTER(A AA ALEF BA CAYN DEEL DHA E EE FA GA HA I JA KAAF KHA LAAN MIIN NUUN O OO
QAAF RA SA SHIIN TA U WAW XA YA)) OTTER OTTOMAN(SIYAQ(ALTERNATE(NUMBER(EIGHT FIVE FOUR.(HUNDRED)
NINE SEVEN SIX.(HUNDRED) TEN.(THOUSAND) THREE TWO.(THOUSAND))) FRACTION(ONE(HALF SIXTH)) MARRATAN
NUMBER(EIGHT.(HUNDRED THOUSAND) EIGHTY.(THOUSAND) FIFTY.(THOUSAND) FIVE.(HUNDRED THOUSAND)
FORTY.(THOUSAND) FOUR.(HUNDRED THOUSAND) NINE.(HUNDRED THOUSAND) NINETY.(THOUSAND) ONE.(HUNDRED
THOUSAND) SEVEN.(HUNDRED THOUSAND) SEVENTY.(THOUSAND) SIX.(HUNDRED THOUSAND) SIXTY.(THOUSAND)
TEN.(THOUSAND) THIRTY.(THOUSAND) THREE.(HUNDRED THOUSAND) TWENTY.(THOUSAND) TWO.(HUNDRED
THOUSAND)))) OUNCE(SIGN) OUTBOX(TRAY) OUTLINED(BLACK(STAR) GREEK(CROSS) LATIN(CROSS) WHITE(STAR))
OVERHEATED(FACE) OVERLAP OVERLAPPING(BLACK(SQUARES) WHITE(AND(BLACK(SQUARES)) SQUARES)) OVERLINE
OWL OX OYSTER PACKAGE PAD PADDING(CHARACTER) PAGE.(FACING(UP) WITH(CIRCLED(TEXT) CURL)) PAGER PAGES
PAGODA PAHAWH(HMONG(CLAN(SIGN(FAJ HAM HAWJ KHAB KOO KWM LAUJ LIS MUAS PHAB THOJ TSAB TSHEEJ TSWB
VAJ VWJ XYOOJ YAJ YEEG)) CONSONANT(AU CAU CHAU HAU HLAU HNAU LAU MAU NAU NCHAU NKAU NLAU NTHAU
NTSAU PLHAU QHAU RAU VAU XAU YAU) DIGIT(EIGHT FIVE FOUR NINE ONE SEVEN SIX THREE TWO ZERO)
MARK(CIM(HOM KES KHAV SO SUAM TAUM TUB)) NUMBER(HUNDRED(MILLIONS) HUNDREDS MILLIONS TEN(BILLIONS
THOUSANDS) TENS TRILLIONS) SIGN(AV CIM(CHEEM CUAM(TSHOOJ) HAIS(LUS(NTOG(NTOG))) NRES(TOS) PUB(DAWB)
TSOV(ROG) TXWV.(CHWV)) HLI HNUB IB(YAM) LOS MEEJ(SUAB TSEEB) MUS NQIG NTUJ TAU THIRD-STAGE(HLI)
TXHEEJ(CEEV) VOS(FEEM LUB NRUA SEEV THIAB THOM TSHAB(CEEB)) XAUS XIAB XYEEM(FAIB NTXIV RHO TOV)
XYOO ZWJ(THAJ)) VOWEL(KAAB KAAV KAB KAIB KAIV KAUB KAUV KAV KAWB KAWV KEB KEEB KEEV KEV KIAB KIAV
KIB KIV KOB KOOB KOOV KOV KUAB KUAV KUB KUV KWB KWV))) PALLAS PALM(BRANCH DOWN(HAND) TREE UP(HAND))
PALMS(UP(TOGETHER)) PALMYRENE(LEFT-POINTING(FLEURON) LETTER(ALEPH AYIN BETH DALETH FINAL(NUN) GIMEL
HE HETH KAPH LAMEDH MEM NUN PE QOPH RESH SADHE SAMEKH SHIN TAW TETH WAW YODH ZAYIN) NUMBER(FIVE
FOUR ONE TEN THREE TWENTY TWO) RIGHT-POINTING(FLEURON)) PANCAKES PANDA(FACE) PAPERCLIP PARACHUTE
PARAGRAPH(SEPARATOR) PARAGRAPHOS PARAGRAPHUS(MARK) PARALLEL(TO WITH(HORIZONTAL(STROKE)
TILDE(OPERATOR))) PARENTHESIZED(DIGIT(EIGHT FIVE FOUR NINE ONE SEVEN SIX THREE TWO)
HANGUL(CHIEUCH.(A) CIEUC.(A U) HIEUH.(A) IEUNG.(A) KHIEUKH.(A) KIYEOK.(A) MIEUM.(A) NIEUN.(A)
PHIEUPH.(A) PIEUP.(A) RIEUL.(A) SIOS.(A) THIEUTH.(A) TIKEUT.(A)) IDEOGRAPH(ALLIANCE CALL
CONGRATULATION EARTH EIGHT ENTERPRISE FESTIVAL FINANCIAL FIRE FIVE FOUR HAVE LABOR METAL MOON NAME
NINE ONE REACH REPRESENT RESOURCE REST SELF SEVEN SIX SOCIETY SPECIAL STOCK STUDY SUN SUPERVISE TEN
THREE TWO WATER WOOD) KOREAN(CHARACTER(O(HU) OJEON)) LATIN(CAPITAL(LETTER(A B C D E F G H I J K L M
N O P Q R S T U V W X Y Z)) SMALL(LETTER(A B C D E F G H I J K L M N O P Q R S T U V W X Y Z)))
NUMBER(EIGHTEEN ELEVEN FIFTEEN FOURTEEN NINETEEN SEVENTEEN SIXTEEN TEN THIRTEEN TWELVE TWENTY))
PARROT PART(ALTERNATION(MARK)) PARTIAL(DIFFERENTIAL LINE(BACKWARD DOWN FORWARD UP))
PARTIALLY-RECYCLED(PAPER(SYMBOL)) PARTNERSHIP(SIGN) PARTY(POPPER) PASSED(SYMBOL) PASSENGER(SHIP)
PASSIVE-PULL-DOWN-OUTPUT(SYMBOL) PASSIVE-PULL-UP-OUTPUT(SYMBOL) PASSPORT(CONTROL)
PAU(CIN(HAU(GLOTTAL(STOP.(FINAL VARIANT)) LETTER(A BA CA CHA DA E FA FINAL(K L M N NG P T W Y) GA
HA I IA KA KHA LA MA NA NGA O PA PHA RA SA TA THA U UA VA ZA) LOW-FALLING(TONE.(FINAL
LONG.(FINAL))) MID-LEVEL(TONE.(FINAL LONG(FINAL))) RISING(TONE.(FINAL LONG.(FINAL)))
SANDHI(GLOTTAL(STOP.(FINAL)) TONE.(FINAL LONG.(FINAL)))))) PAW(PRINTS) PDF PDI PEACE(SYMBOL) PEACH
PEACOCK PEANUTS PEAR PEDESTRIAN PEN(OVER(STAMPED(ENVELOPE))) PENCIL PENGUIN PENSIVE(FACE) PENTAGRAM
PEOPLE(HUGGING) PER(MILLE(SIGN) SIGN TEN(THOUSAND(SIGN))) PERCENT(SIGN) PERFORMING(ARTS)
PERMANENT(PAPER(SIGN)) PERPENDICULAR.(WITH(S)) PERSEVERING(FACE) PERSON(BOWING(DEEPLY) CLIMBING
DOING(CARTWHEEL) FROWNING IN(LOTUS(POSITION) STEAMY(ROOM)) RAISING(BOTH(HANDS(IN(CELEBRATION))))
WITH(BALL BLOND(HAIR) CROWN FOLDED(HANDS) HEADSCARF POUTING(FACE))) PERSONAL(COMPUTER) PERSPECTIVE
PESETA(SIGN) PESO(SIGN) PETRI(DISH) PHAGS-PA(DOUBLE(HEAD(MARK)) LETTER(A ALTERNATE(YA)
ASPIRATED(FA) BA CA CANDRABINDU CHA DA DDA DZA E EE FA GA GGA HA I JA KA KHA LA MA NA NGA NNA NYA O
PA PHA QA RA SA SHA SMALL(A) TA THA TSA TSHA TTA TTHA U VOICED(HA) VOICELESS(SHA) WA XA YA ZA ZHA)
MARK(DOUBLE(SHAD) SHAD) SINGLE(HEAD(MARK)) SUBJOINED(LETTER(RA WA YA)) SUPERFIXED(LETTER(RA)))
PHAISTOS(DISC(SIGN(ARROW BEE BEEHIVE BOOMERANG BOW BULLS(LEG) CAPTIVE CARPENTRY(PLANE) CAT CHILD
CLUB COLUMN COMB COMBINING(OBLIQUE(STROKE)) DOLIUM DOVE EAGLE FLUTE GAUNTLET GRATER HELMET HIDE
HORN LID LILY MANACLES MATTOCK OX(BACK) PAPYRUS PEDESTRIAN PLANE(TREE) PLUMED(HEAD) RAM ROSETTE SAW
SHIELD SHIP SLING SMALL(AXE) STRAINER TATTOOED(HEAD) TIARA TUNNY VINE WAVY(BAND) WOMAN)))
PHILIPPINE(DOUBLE(PUNCTUATION) SINGLE(PUNCTUATION)) PHOENICIAN(LETTER(AIN ALF BET DELT GAML HE HET
KAF LAMD MEM NUN PE QOF ROSH SADE SEMK SHIN TAU TET WAU YOD ZAI) NUMBER(ONE.(HUNDRED) TEN THREE
TWENTY TWO) WORD(SEPARATOR)) PHOLUS PICK PICKUP(TRUCK) PIE PIG.(FACE NOSE) PILCROW(SIGN)
PILE(OF(POO)) PILL PINATA PINCHED(FINGERS) PINCHING(HAND) PINE(DECORATION) PINEAPPLE PINWHEEL(STAR)
PISCES PISTOL PITCHFORK.(WITH(TEE(TOP))) PLACARD PLACE(OF(INTEREST(SIGN) WORSHIP))
PLANCK(CONSTANT.(OVER(TWO(PI)))) PLAYGROUND(SLIDE) PLAYING(CARD(ACE(OF(CLUBS DIAMONDS HEARTS
SPADES)) BACK BLACK(JOKER) EIGHT(OF(CLUBS DIAMONDS HEARTS SPADES)) FIVE(OF(CLUBS DIAMONDS HEARTS
SPADES)) FOOL FOUR(OF(CLUBS DIAMONDS HEARTS SPADES)) JACK(OF(CLUBS DIAMONDS HEARTS SPADES))
KING(OF(CLUBS DIAMONDS HEARTS SPADES)) KNIGHT(OF(CLUBS DIAMONDS HEARTS SPADES)) NINE(OF(CLUBS
DIAMONDS HEARTS SPADES)) QUEEN(OF(CLUBS DIAMONDS HEARTS SPADES)) RED(JOKER) SEVEN(OF(CLUBS DIAMONDS
HEARTS SPADES)) SIX(OF(CLUBS DIAMONDS HEARTS SPADES)) TEN(OF(CLUBS DIAMONDS HEARTS SPADES))
THREE(OF(CLUBS DIAMONDS HEARTS SPADES)) TRUMP-1 TRUMP-10 TRUMP-11 TRUMP-12 TRUMP-13 TRUMP-14
TRUMP-15 TRUMP-16 TRUMP-17 TRUMP-18 TRUMP-19 TRUMP-2 TRUMP-20 TRUMP-21 TRUMP-3 TRUMP-4 TRUMP-5
TRUMP-6 TRUMP-7 TRUMP-8 TRUMP-9 TWO(OF(CLUBS DIAMONDS HEARTS SPADES)) WHITE(JOKER))) PLD PLU
PLUNGER PLUS(SIGN.(ABOVE(EQUALS(SIGN)) IN(LEFT(HALF(CIRCLE)) RIGHT(HALF(CIRCLE)) TRIANGLE)
WITH(BLACK(TRIANGLE) CIRCUMFLEX(ACCENT(ABOVE)) DOT(BELOW) SMALL(CIRCLE(ABOVE)) SUBSCRIPT(TWO)
TILDE(ABOVE BELOW)))) PLUS-MINUS(SIGN) PLUTO.(FORM(FIVE FOUR THREE TWO)) PM POCKET(CALCULATOR)
POLICE(CAR CARS(REVOLVING(LIGHT)) OFFICER) POODLE POP(DIRECTIONAL(FORMATTING ISOLATE)) POPCORN
PORTABLE(STEREO) POSEIDON POSITION(INDICATOR) POSTAL(HORN MARK.(FACE)) POSTBOX POT(OF(FOOD))
POTABLE(WATER(SYMBOL)) POTATO POTTED(PLANT) POUCH POULTRY(LEG) POUND(SIGN) POURING(LIQUID)
POUTING(CAT(FACE) FACE) POWER(ON(SYMBOL) ON-OFF(SYMBOL) SLEEP(SYMBOL) SYMBOL) PRAYER(BEADS)
PRECEDES.(ABOVE(ALMOST(EQUAL(TO)) EQUALS(SIGN) NOT(ALMOST(EQUAL(TO)) EQUAL(TO))
SINGLE-LINE(EQUALS(SIGN) NOT(EQUAL(TO)))) BUT(NOT(EQUIVALENT(TO))) OR(EQUAL(TO) EQUIVALENT(TO))
UNDER(RELATION)) PREGNANT(MAN PERSON WOMAN) PRESCRIPTION(TAKE) PRESENTATION(FORM(FOR(VERTICAL(COLON
COMMA EM(DASH) EN(DASH) EXCLAMATION(MARK) HORIZONTAL(ELLIPSIS) IDEOGRAPHIC(COMMA FULL(STOP))
LEFT(ANGLE(BRACKET) BLACK(LENTICULAR(BRACKET)) CORNER(BRACKET) CURLY(BRACKET)
DOUBLE(ANGLE(BRACKET)) PARENTHESIS SQUARE(BRACKET) TORTOISE(SHELL(BRACKET)) WHITE(CORNER(BRACKET)
LENTICULAR(BRACKET))) LOW(LINE) QUESTION(MARK) RIGHT(ANGLE(BRACKET) BLACK(LENTICULAR(BRACKET))
CORNER(BRACKET) CURLY(BRACKET) DOUBLE(ANGLE(BRACKET)) PARENTHESIS SQUARE(BRACKET)
TORTOISE(SHELL(BRACKET)) WHITE(CORNER(BRACKET) LENTICULAR(BRACKET BRAKCET))) SEMICOLON
TWO(DOT(LEADER)) WAVY(LOW(LINE)))))) PRETZEL PREVIOUS(PAGE) PRIME PRINCE PRINCESS
PRINT(SCREEN(SYMBOL)) PRINTER.(ICON) PRIVACY(MESSAGE) PRIVATE(USE(ONE TWO) USE-1 USE-2)
PROBING(CANE) PROHIBITED(SIGN) PROJECTIVE PROPERTY(LINE) PROPORTION PROPORTIONAL(TO) PROSERPINA
PSALTER(PAHLAVI(FOUR(DOTS(WITH(CROSS DOT))) LETTER(ALEPH BETH DALETH GIMEL HE HETH KAPH LAMEDH
MEM-QOPH NUN PE SADHE SAMEKH SHIN TAW WAW-AYIN-RESH YODH ZAYIN) NUMBER(FOUR ONE.(HUNDRED) TEN THREE
TWENTY TWO) SECTION(MARK) TURNED(SECTION(MARK)))) PU1 PU2 PUBLIC(ADDRESS(LOUDSPEAKER))
PUNCTUATION(SPACE) PUNCTUS(ELEVATUS(MARK)) PURPLE(HEART) PURSE PUSHPIN
PUT(LITTER(IN(ITS(PLACE(SYMBOL))))) QUADRANT(LOWER(LEFT RIGHT)
UPPER(LEFT.(AND(LOWER(LEFT(AND(LOWER(RIGHT))) RIGHT) UPPER(RIGHT(AND(LOWER(LEFT RIGHT))))))
RIGHT.(AND(LOWER(LEFT.(AND(LOWER(RIGHT)))))))) QUADRUPLE(INTEGRAL(OPERATOR) PRIME) QUARTER(NOTE)
QUATERNION(INTEGRAL(OPERATOR)) QUESTION(EXCLAMATION(MARK) MARK) QUESTIONED(EQUAL(TO)) QUINCUNX
QUOTATION(MARK) RABBIT.(FACE) RACCOON RACING(CAR MOTORCYCLE) RADICAL(SYMBOL(BOTTOM)) RADIO.(BUTTON)
RADIOACTIVE(SIGN) RAILWAY(CAR TRACK) RAIN RAINBOW RAISED(BACK(OF(HAND)) COMMA DOT
DOTTED(INTERPOLATION(MARKER)) FIST HAND.(WITH(FINGERS(SPLAYED)
PART(BETWEEN(MIDDLE(AND(RING(FINGERS))))))) INTERPOLATION(MARKER) MC(SIGN) MD(SIGN) MR(SIGN)
SQUARE) RAM RAT RATIO RAZOR RECEIPT RECORD(SEPARATOR) RECREATIONAL(VEHICLE) RECYCLED(PAPER(SYMBOL))
RECYCLING(SYMBOL(FOR(GENERIC(MATERIALS) TYPE-1(PLASTICS) TYPE-2(PLASTICS) TYPE-3(PLASTICS)
TYPE-4(PLASTICS) TYPE-5(PLASTICS) TYPE-6(PLASTICS) TYPE-7(PLASTICS)))) RED(APPLE GIFT(ENVELOPE))
REFERENCE(MARK) REGIONAL(INDICATOR(SYMBOL(LETTER(A B C D E F G H I J K L M N O P Q R S T U V W X Y
Z)))) REGISTERED(SIGN) REJANG(CONSONANT(SIGN(H N NG R)) LETTER(A BA CA DA GA HA JA KA LA MA MBA NA
NDA NGA NGGA NYA NYJA PA RA SA TA WA YA) SECTION(MARK) VIRAMA VOWEL(SIGN(AI AU E EA EU I O U)))
RELIEVED(FACE) REMINDER(RIBBON) REPLACEMENT(CHARACTER) RESPONSE RESTRICTED(LEFT(ENTRY-1 ENTRY-2))
RESTROOM RETURN(LEFT RIGHT SYMBOL) REVERSE(CHECKER(BOARD) INDEX
LIGHT(FOUR(POINTED(PINWHEEL(STAR)))) LINE(FEED) SOLIDUS.(OPERATOR PRECEDING(SUBSET)
WITH(HORIZONTAL(STROKE))) TILDE(OPERATOR(ABOVE(LEFTWARDS(ARROW) RIGHTWARDS(ARROW)))))
REVERSED(ANGLE.(WITH(UNDERBAR)) COMMA DOUBLE(PRIME.(QUOTATION(MARK)) STROKE(NOT(SIGN))) EMPTY(SET)
FORKED(PARAGRAPHOS) HAND(WITH(MIDDLE(FINGER(EXTENDED)))) NOT(SIGN) PILCROW(SIGN) PRIME
QUESTION(MARK) RAISED(HAND(WITH(FINGERS(SPLAYED)))) RIGHT(ANGLE) ROTATED(FLORAL(HEART(BULLET)))
SANS-SERIF(CAPITAL(L)) SEMICOLON THUMBS(DOWN(SIGN) UP(SIGN)) TILDE.(EQUALS) TRIPLE(PRIME)
VICTORY(HAND)) REVOLVING(HEARTS) RHINOCEROS RI RIAL(SIGN) RIBBON.(ARROW(DOWN(LEFT RIGHT) LEFT(DOWN
UP) RIGHT(DOWN UP) UP(LEFT RIGHT))) RICE(BALL CRACKER) RIFLE RIGHT(AND(LOWER(ONE(EIGHTH(BLOCK)))
UPPER(ONE(EIGHTH(BLOCK)))) ANGER(BUBBLE) ANGLE.(BRACKET.(WITH(DOT)) DOTTED(SUBSTITUTION(MARKER))
SUBSTITUTION(MARKER) VARIANT(WITH(SQUARE)) WITH(ARC DOWNWARDS(ZIGZAG(ARROW))))
ARC(GREATER-THAN(BRACKET)) ARROW(WITH(CIRCLED(PLUS) SMALL(CIRCLE))) BLACK(LENTICULAR(BRACKET)
TORTOISE(SHELL(BRACKET))) CEILING CORNER(BRACKET) CURLY(BRACKET.(LOWER(HOOK) MIDDLE(PIECE)
UPPER(HOOK))) DOTTED(SUBSTITUTION(BRACKET)) DOUBLE(ANGLE(BRACKET) ARROW(WITH(ROUNDED(HEAD)))
PARENTHESIS QUOTATION(MARK) WIGGLY(FENCE)) FISH(TAIL) FIVE(EIGHTHS(BLOCK)) FLOOR HALF(BLACK(CIRCLE
STAR) BLOCK FOLDER MEDIUM(SHADE) RUNNING(MAN)) HAND(TELEPHONE(RECEIVER)) LOW(PARAPHRASE(BRACKET))
NORMAL(FACTOR(SEMIDIRECT(PRODUCT))) ONE(EIGHTH(BLOCK) QUARTER(BLOCK)) OPEN(SQUARED(DOT))
OUTER(JOIN) PARENTHESIS.(EXTENSION LOWER(HOOK) UPPER(HOOK)) RAISED(OMISSION(BRACKET))
S-SHAPED(BAG(DELIMITER)) SEMIDIRECT(PRODUCT) SEVEN(EIGHTHS(BLOCK)) SIDEWAYS(U(BRACKET))
SINGLE(QUOTATION(MARK)) SPEAKER.(WITH(ONE(SOUND(WAVE)) THREE(SOUND(WAVES)))) SPEECH(BUBBLE)
SQUARE(BRACKET.(EXTENSION LOWER(CORNER) UPPER(CORNER) WITH(DOUBLE(STROKE) QUILL STROKE
TICK(IN(BOTTOM(CORNER) TOP(CORNER))) UNDERBAR))) SUBSTITUTION(BRACKET) TACK
THIRD(WHITE(RIGHT(POINTING(INDEX)))) THOUGHT(BUBBLE) THREE(EIGHTHS(BLOCK) QUARTERS(BLOCK))
TORTOISE(SHELL(BRACKET)) TRANSPOSITION(BRACKET) TRIANGLE.(ABOVE(LEFT(TRIANGLE)))
TRIANGULAR(ONE(QUARTER(BLOCK))) VERTICAL(BAR(WITH(QUILL)) BOX(LINE)) WHITE(CORNER(BRACKET)
CURLY(BRACKET) LENTICULAR(BRACKET) PARENTHESIS SQUARE(BRACKET) TORTOISE(SHELL(BRACKET)))
WIGGLY(FENCE)) RIGHT-FACING(ARMENIAN(ETERNITY(SIGN)) FIST SVASTI(SIGN.(WITH(DOTS))))
RIGHT-HANDED(INTERLACED(PENTAGRAM)) RIGHT-POINTING(ANGLE(BRACKET) CURVED(ANGLE(BRACKET))
DOUBLE(ANGLE(QUOTATION(MARK))) MAGNIFYING(GLASS)) RIGHT-SHADED(WHITE(RIGHTWARDS(ARROW)))
RIGHT-SIDE(ARC(CLOCKWISE(ARROW))) RIGHT-TO-LEFT(EMBEDDING ISOLATE MARK OVERRIDE)
RIGHTHAND(INTERIOR(PRODUCT)) RIGHTWARDS(ARROW.(ABOVE(ALMOST(EQUAL(TO)) REVERSE(ALMOST(EQUAL(TO))
TILDE(OPERATOR)) SHORT(LEFTWARDS(ARROW)) TILDE(OPERATOR))
AND(UPPER(AND(LOWER(ONE(EIGHTH(BLOCK)))))) FROM(BAR.(TO(BLACK(DIAMOND)))) OVER(LEFTWARDS(ARROW))
THROUGH(GREATER-THAN SUPERSET X) TO(BAR BLACK(DIAMOND)) WITH(CORNER(DOWNWARDS) DOTTED(STEM)
DOUBLE(VERTICAL(STROKE)) EQUILATERAL(ARROWHEAD) HOOK LARGE(TRIANGLE(ARROWHEAD)) LOOP
MEDIUM(TRIANGLE(ARROWHEAD)) NOTCHED(TAIL) PLUS(BELOW) SMALL(EQUILATERAL(ARROWHEAD)
TRIANGLE(ARROWHEAD)) STROKE TAIL.(WITH(DOUBLE(VERTICAL(STROKE)) VERTICAL(STROKE))) TIP(DOWNWARDS
UPWARDS) VERTICAL(STROKE))) ARROW-TAIL BACK-TILTED(SHADOWED(WHITE(ARROW))) BLACK(ARROW
CIRCLED(WHITE(ARROW))) BOTTOM(SHADED(WHITE(ARROW))) COMPRESSED(ARROW) DASHED(ARROW)
DOUBLE(ARROW.(FROM(BAR) WITH(STROKE VERTICAL(STROKE))) ARROW-TAIL DASH(ARROW)) FINGER-POST(ARROW)
FRONT-TILTED(SHADOWED(WHITE(ARROW))) HAND HARPOON(OVER(LEFTWARDS(HARPOON))
WITH(BARB(DOWN(ABOVE(LEFTWARDS(HARPOON(WITH(BARB(DOWN))))) BELOW(LONG(DASH)) FROM(BAR) TO(BAR))
DOWNWARDS UP(ABOVE(LEFTWARDS(HARPOON(WITH(BARB(UP)))) LONG(DASH)
RIGHTWARDS(HARPOON(WITH(BARB(DOWN))))) FROM(BAR) TO(BAR)) UPWARDS))) HEAVY(ARROW COMPRESSED(ARROW))
LEFT-SHADED(WHITE(ARROW)) OPEN-HEADED(ARROW) PAIRED(ARROWS) QUADRUPLE(ARROW)
RIGHT-SHADED(WHITE(ARROW)) ROCKET SANS-SERIF(ARROW) SQUARED(ARROW) SQUIGGLE(ARROW)
TOP(SHADED(WHITE(ARROW))) TRIANGLE(ARROWHEAD)
TRIANGLE-HEADED(ARROW.(OVER(LEFTWARDS(TRIANGLE-HEADED(ARROW))) TO(BAR) WITH(BOLD(SHAFT)
DOUBLE(HORIZONTAL(STROKE) VERTICAL(STROKE)) HEAVY(SHAFT) LONG(TIP(DOWNWARDS UPWARDS)) MEDIUM(SHAFT)
NARROW(SHAFT) VERY(HEAVY(SHAFT)))) DASHED(ARROW) PAIRED(ARROWS)) TRIPLE(ARROW DASH(ARROW))
TWO(HEADED(ARROW)) TWO-HEADED(ARROW(FROM(BAR) WITH(DOUBLE(VERTICAL(STROKE))
TAIL.(WITH(DOUBLE(VERTICAL(STROKE)) VERTICAL(STROKE))) TRIANGLE(ARROWHEADS) VERTICAL(STROKE)))
TRIPLE(DASH(ARROW))) WAVE(ARROW) WHITE(ARROW.(FROM(WALL) WITHIN(TRIANGLE(ARROWHEAD))))) RING.(ABOVE
BUOY EQUAL(TO) IN(EQUAL(TO)) OPERATOR POINT) RINGED(PLANET) RINGING(BELL)
RISING(DIAGONAL(CROSSING(FALLING(DIAGONAL) SOUTH(EAST(ARROW))))) RLE RLI RLM RLO
ROASTED(SWEET(POTATO)) ROBOT(FACE) ROCK ROCKET ROLL(OF(PAPER)) ROLLED-UP(NEWSPAPER) ROLLER(COASTER
SKATE) ROLLING(ON(THE(FLOOR(LAUGHING)))) ROMAN(AS(SIGN) CENTURIAL(SIGN) DENARIUS(SIGN)
DIMIDIA(SEXTULA(SIGN)) DUPONDIUS(SIGN) NUMERAL(EIGHT ELEVEN FIFTY.(EARLY(FORM) THOUSAND)
FIVE.(HUNDRED THOUSAND) FOUR NINE ONE.(HUNDRED.(THOUSAND) THOUSAND.(C(D))) REVERSED(ONE(HUNDRED))
SEVEN SIX.(LATE(FORM)) TEN.(THOUSAND) THREE TWELVE TWO) QUINARIUS(SIGN) SEMUNCIA(SIGN)
SESTERTIUS(SIGN) SEXTANS(SIGN) SEXTULA(SIGN) SILIQUA(SIGN) UNCIA(SIGN)) ROOSTER ROSE ROSETTE
ROTATED(CAPITAL(Q) FLORAL(HEART(BULLET)) HEAVY(BLACK(HEART(BULLET)))
LIGHT(FOUR(POINTED(BLACK(CUSP)))) WHITE(FOUR(POINTED(CUSP)))) ROUND(PUSHPIN TARGET)
ROUNDED(SYMBOL(FOR(CAI FU LU SHOU SHUANGXI XI))) ROWBOAT RS RUBLE(SIGN) RUGBY(FOOTBALL)
RULE-DELAYED RUMI(DIGIT(EIGHT FIVE FOUR NINE ONE SEVEN SIX THREE TWO) FRACTION(ONE(HALF QUARTER
THIRD) TWO(THIRDS)) NUMBER(EIGHT(HUNDRED) EIGHTY FIFTY FIVE(HUNDRED) FORTY FOUR(HUNDRED)
NINE(HUNDRED) NINETY ONE(HUNDRED) SEVEN(HUNDRED) SEVENTY SIX(HUNDRED) SIXTY TEN THIRTY
THREE(HUNDRED) TWENTY TWO(HUNDRED))) RUNIC(ARLAUG(SYMBOL) BELGTHOR(SYMBOL) CROSS(PUNCTUATION)
LETTER(AC(A) AESC ALGIZ(EOLHX) ANSUZ(A) BERKANAN(BEORC(BJARKAN(B))) C CALC CEALC CEN CWEORTH D
DAGAZ(DAEG(D)) DOTTED-L DOTTED-N DOTTED-P E EAR EHWAZ(EH(E)) ENG ETH FEHU(FEOH(FE(F)))
FRANKS(CASKET(AC AESC EH IS OS)) G GAR GEBO(GYFU(G)) GER HAEGL(H) HAGLAZ(H) ICELANDIC-YR ING INGWAZ
IOR ISAZ(IS(ISS(I))) IWAZ(EOH) JERAN(J) K KAUN(K) KAUNA LAUKAZ(LAGU(LOGR(L))) LONG-BRANCH-AR(AE)
LONG-BRANCH-HAGALL(H) LONG-BRANCH-MADR(M) LONG-BRANCH-OSS(O) LONG-BRANCH-YR MANNAZ(MAN(M))
NAUDIZ(NYD(NAUD(N))) O OE ON OO OPEN-P OS(O) OTHALAN(ETHEL(O)) PERTHO(PEORTH(P)) Q
RAIDO(RAD(REID(R))) SH SHORT-TWIG-AR(A) SHORT-TWIG-BJARKAN(B) SHORT-TWIG-HAGALL(H)
SHORT-TWIG-MADR(M) SHORT-TWIG-NAUD(N) SHORT-TWIG-OSS(O) SHORT-TWIG-SOL(S) SHORT-TWIG-TYR(T)
SHORT-TWIG-YR SIGEL(LONG-BRANCH-SOL(S)) SOWILO(S) STAN THURISAZ(THURS(THORN)) TIWAZ(TIR(TYR(T)))
URUZ(UR(U)) V W WUNJO(WYNN(W)) X Y YR Z) MULTIPLE(PUNCTUATION) SINGLE(PUNCTUATION)
TVIMADUR(SYMBOL)) RUNNER RUNNING(SHIRT(WITH(SASH))) RUPEE(SIGN)
RUSSIAN(ASTROLOGICAL(SYMBOL(BINOVILE NOVILE QUINTILE SENTAGON TREDECILE VIGINTILE)))
S(IN(TRIANGLE)) SAFETY(PIN VEST) SAGITTARIUS SAILBOAT SAKE(BOTTLE(AND(CUP))) SALT(SHAKER) SALTIRE
SALUTING(FACE) SAMARITAN(ABBREVIATION(MARK) LETTER(ALAF BAA BIT DALAT FI GAMAN IN IT IY KAAF LABAT
MIM NUN QUF RISH SHAN SINGAAT TAAF TIT TSAADIY YUT ZEN) MARK(DAGESH EPENTHETIC(YUT) IN IN-ALAF
NEQUDAA OCCLUSION) MODIFIER(LETTER(EPENTHETIC(YUT) I SHORT(A))) PUNCTUATION(AFSAAQ ANGED ANNAAU
ARKAANU ATMAAU BAU MELODIC(QITSA) NEQUDAA QITSA SHIYYAALAA SOF(MASHFAAT) TURU ZAEF ZIQAA)
VOWEL(SIGN(A AA E I LONG(A AA E I U) O OVERLONG(A AA) SHORT(A) SUKUN U))) SANDWICH
SANS-SERIF(HEAVY(DOUBLE(COMMA(QUOTATION(MARK(ORNAMENT))) TURNED(COMMA(QUOTATION(MARK(ORNAMENT)))))
LOW(DOUBLE(COMMA(QUOTATION(MARK(ORNAMENT)))))) INTERROBANG(ORNAMENT)) SARI SATELLITE.(ANTENNA)
SATURN SAURASHTRA(CONSONANT(SIGN(HAARU)) DANDA DIGIT(EIGHT FIVE FOUR NINE ONE SEVEN SIX THREE TWO
ZERO) DOUBLE(DANDA) LETTER(A AA AI AU BA BHA CA CHA DA DDA DDHA DHA E EE GA GHA HA I II JA JHA KA
KHA LA LLA MA NA NGA NNA NYA O OO PA PHA RA SA SHA SSA TA THA TTA TTHA U UU VA VOCALIC(L LL R RR)
YA) SIGN(ANUSVARA CANDRABINDU VIRAMA VISARGA) VOWEL(SIGN(AA AI AU E EE I II O OO U UU VOCALIC(L LL
R RR)))) SAUROPOD SAXOPHONE SCALES SCARF SCHOOL.(SATCHEL) SCI SCOOTER SCORPION SCORPIUS SCREEN
SCREWDRIVER SCRIPT(CAPITAL(B E F H I L M P R) LIGATURE(ET(ORNAMENT)) SMALL(E G L O)) SCROLL SCRUPLE
SEAL SEAT SECOND(PLACE(MEDAL)) SECTION(SIGN) SECTOR SEDNA SEE-NO-EVIL(MONKEY) SEEDLING SEGMENT
SEGMENTED(DIGIT(EIGHT FIVE FOUR NINE ONE SEVEN SIX THREE TWO ZERO)) SELFIE SEMICOLON
SEMIDIRECT(PRODUCT(WITH(BOTTOM(CLOSED)))) SEMISEXTILE SEPARATED(SYMBOL)
SERIOUS(FACE(WITH(SYMBOLS(COVERING(MOUTH))))) SERVICE(MARK) SESAME(DOT) SESQUIQUADRATE SET(MINUS
TRANSMIT(STATE)) SEWING(NEEDLE) SEXTILE SGC SHADOWED(WHITE(CIRCLE LATIN(CROSS) STAR))
SHALLOW(PAN(OF(FOOD))) SHAMROCK SHARADA(ABBREVIATION(SIGN) CONTINUATION(SIGN) DANDA DIGIT(EIGHT
FIVE FOUR NINE ONE SEVEN SIX THREE TWO ZERO) DOUBLE(DANDA) EKAM EXTRA(SHORT(VOWEL(MARK)))
HEADSTROKE LETTER(A AA AI AU BA BHA CA CHA DA DDA DDHA DHA E GA GHA HA I II JA JHA KA KHA LA LLA MA
NA NGA NNA NYA O PA PHA RA SA SHA SSA TA THA TTA TTHA U UU VA VOCALIC(L LL R RR) YA) OM
SANDHI(MARK) SECTION(MARK-1 MARK-2) SEPARATOR SIGN(ANUSVARA AVAGRAHA CANDRABINDU
INVERTED(CANDRABINDU) JIHVAMULIYA NUKTA SIDDHAM UPADHMANIYA VIRAMA VISARGA) SUTRA(MARK)
VOWEL(MODIFIER(MARK) SIGN(AA AI AU E I II O PRISHTHAMATRA(E) U UU VOCALIC(L LL R RR)))) SHARK
SHAVED(ICE) SHAVIAN(LETTER(ADO AGE AH AIR ARE ARRAY ASH AWE BIB CHURCH DEAD EAR EAT EGG ERR FEE GAG
HA-HA HUNG IAN ICE IF JUDGE KICK LOLL MEASURE MIME NUN OAK OIL ON OOZE OR OUT PEEP ROAR SO SURE
THEY THIGH TOT UP VOW WOE WOOL YEA YEW ZOO)) SHEEP SHIELD SHIFT(IN OUT) SHINTO(SHRINE) SHIP
SHOCKED(FACE(WITH(EXPLODING(HEAD)))) SHOOTING(STAR) SHOPPING(BAGS TROLLEY)
SHORT(BACKSLANTED(SOUTH(ARROW)) BENT(ARROW(POINTING(DOWNWARDS(THEN(NORTH(EAST))))))
DOWN(TACK.(WITH(OVERBAR))) LEFT(TACK) RIGHTWARDS(ARROW(ABOVE(LEFTWARDS(ARROW))))
SLANTED(NORTH(ARROW)) UP(TACK.(ABOVE(SHORT(DOWN(TACK))) WITH(UNDERBAR)))) SHORTCAKE
SHORTHAND(FORMAT(CONTINUING(OVERLAP) DOWN(STEP) LETTER(OVERLAP) UP(STEP))) SHORTS
SHOULDERED(OPEN(BOX)) SHOWER SHRIMP SHRUG SHUFFLE(PRODUCT) SHY SI SIDDHAM(DANDA DOUBLE(DANDA)
END(OF(TEXT(MARK))) LETTER(A AA AI ALTERNATE(U) AU BA BHA CA CHA DA DDA DDHA DHA E GA GHA HA I II
JA JHA KA KHA LA MA NA NGA NNA NYA O PA PHA RA SA SHA SSA TA THA THREE-CIRCLE(ALTERNATE(I)) TTA
TTHA TWO-CIRCLE(ALTERNATE(I II)) U UU VA VOCALIC(L LL R RR) YA) REPETITION(MARK-1 MARK-2 MARK-3)
SECTION(MARK(DOUBLE(RING.(WITH(RAYS))) WITH(CIRCLES(AND(FOUR(ENCLOSURES) RAYS TWO(ENCLOSURES)))
DOUBLE(CRESCENTS) QUADRUPLE(CRESCENTS) RAYS(AND(DOTTED(CRESCENTS DOUBLE(CRESCENTS)
TRIPLE(CRESCENTS)))) SEPTUPLE(CRESCENTS) TRIDENT(AND(DOTTED(CRESCENTS) U-SHAPED(ORNAMENTS)))
TRIPLE(CRESCENTS)))) SEPARATOR(BAR DOT) SIGN(ANUSVARA CANDRABINDU NUKTA SIDDHAM VIRAMA VISARGA)
VOWEL(SIGN(AA AI ALTERNATE(U UU) AU E I II O U UU VOCALIC(R RR))))
SIDEWAYS(BLACK(DOWN(POINTING(INDEX)) LEFT(POINTING(INDEX)) RIGHT(POINTING(INDEX))
UP(POINTING(INDEX))) WHITE(DOWN(POINTING(INDEX)) LEFT(POINTING(INDEX)) RIGHT(POINTING(INDEX))
UP(POINTING(INDEX)))) SIGN(OF(THE(HORNS))) SIGNWRITING(AIR(BLOW(SMALL(ROTATIONS)) BLOWING(OUT)
SUCK(SMALL(ROTATIONS)) SUCKING(IN)) BREATH(EXHALE INHALE) BRUSH(BETWEEN MULTIPLE SINGLE)
CHEEKS(NEUTRAL PUFFED SUCKED) COLON COMMA DREAMY(EYEBROWS(DOWN(NEUTRAL) NEUTRAL(DOWN UP)
UP(NEUTRAL))) DYNAMIC(ARROWHEAD(LARGE SMALL) EVERY(OTHER(TIME)) FAST GRADUAL RELAXED
SIMULTANEOUS.(ALTERNATING) SLOW TENSE) EARS EXCITEMENT EYE(BLINK(MULTIPLE SINGLE) WINK)
EYEBROWS(STRAIGHT(DOWN NEUTRAL UP)) EYEGAZE-FLOORPLANE(CURVED STRAIGHT.(ALTERNATING DOUBLE))
EYEGAZE-WALLPLANE(CIRCLING CURVED STRAIGHT.(ALTERNATING DOUBLE)) EYELASHES(DOWN FLUTTERING UP)
EYES(CLOSED HALF(CLOSED OPEN) OPEN SQUEEZED WIDE(OPEN) WIDENING(MOVEMENT))
FACE(DIRECTION(POSITION(NOSE(FORWARD(TILTING) UP(OR(DOWN.(TILTING))))))) FILL(MODIFIER-2 MODIFIER-3
MODIFIER-4 MODIFIER-5 MODIFIER-6) FINGER FLICK(LARGE(MULTIPLE SINGLE) SEQUENTIAL SMALL(MULTIPLE
SINGLE)) FLOORPLANE(SHOULDER(HIP(MOVE))) FOREHEAD(CONTACT NEUTRAL WRINKLED) FULL(STOP)
GRASP(BETWEEN MULTIPLE SINGLE) HAIR HAND-ANGLE.(INDEX.(MIDDLE(LITTLE RING) RING(LITTLE.(OUT))
THUMB.(IN OUT)) LITTLE(INDEX.(THUMB(INDEX(THUMB.(OUT)))) UP) MIDDLE(RING(LITTLE.(IN OUT)))
RING(DOWN(MIDDLE(THUMB(INDEX(CROSS)))) LITTLE)) HAND-CIRCLE.(INDEX.(BENT HINGE
MIDDLE.(CROSS(LITTLE) CROSSED LITTLE RING THUMB) RING(LITTLE)) LITTLE(INDEX UP)
MIDDLE(RING(LITTLE.(BENT)) UP) RING(LITTLE)) HAND-CLAW.(FOUR(FINGERS(CONJOINED))
INDEX(THUMB(CURVE(THUMB(INSIDE)))) MIDDLE(RING(LITTLE(CONJOINED.(SIDE)))) NO(THUMB) THUMB(FORWARD
SIDE)) HAND-CUP.(FIVE(FINGERS(SPREAD.(OPEN))) INDEX.(RING(LITTLE) THUMB.(OPEN))
MIDDLE(RING(LITTLE)) NO(THUMB) OPEN.(NO(THUMB) THUMB(FORWARD SIDE)) THUMB(FORWARD SIDE))
HAND-CURLICUE.(INDEX(RING(LITTLE(ON))) MIDDLE(RING(LITTLE(ON))) OPEN)
HAND-FIST.(FOUR(FINGERS(CONJOINED(BENT))) HEEL INDEX.(BENT.(OVER(MIDDLE)) CUPPED HINGED.(LOW
MIDDLE(UP.(THUMB(SIDE)))) MIDDLE.(BENT.(THUMB(STRAIGHT)) CONJOINED.(CUPPED.(THUMB(FORWARD))
HINGED.(THUMB(SIDE)) INDEX(BENT) MIDDLE(BENT) THUMB(FORWARD SIDE.(BENT CONJOINED))) CROSS(LITTLE)
CROSSED.(THUMB(SIDE)) HINGED.(SPREAD(THUMB(SIDE))) LITTLE RAISED(KNUCKLES) RING.(BENT CONJOINED)
STRAIGHT(THUMB(BENT)) THUMB.(ANGLED.(OUT) BENT CIRCLED CONJOINED(HINGED) CUPPED HINGED HOOKED)
UP(SPREAD(THUMB(FORWARD)))) RAISED(KNUCKLE) RING(LITTLE) THUMB(ANGLED(IN(MIDDLE(UP))
OUT(MIDDLE(UP))) CIRCLE CIRCLED(MIDDLE(UP)) CUPPED(MIDDLE(UP)) CURLICUE CURVE(THUMB(INSIDE UNDER))
FORWARD(INDEX(BENT STRAIGHT)) HOOK HOOKED(MIDDLE(HINGED UP)) SIDE.(BOTH(BENT) INDEX(BENT HINGE)
THUMB(BENT CONJOINED DIAGONAL))) UP(MIDDLE(HINGED.(THUMB(CONJOINED SIDE))))) LITTLE(BENT
DOWN.(OTHERS(CIRCLED) RIPPLE(CURVED STRAIGHT)) INDEX.(THUMB) RAISED(KNUCKLE) THUMB TOUCHES(THUMB)
UP) MIDDLE(BENT(OVER(INDEX)) DOWN LITTLE RAISED(KNUCKLE) RING(LITTLE) THUMB(ANGLED(INDEX(UP)
OUT(INDEX(CROSSED UP))) CIRCLED(INDEX(HINGED UP)) CUPPED(INDEX(UP)) HOOKED(INDEX(UP)) LITTLE)
UP.(THUMB(SIDE))) RING(DOWN INDEX LITTLE MIDDLE.(CONJOINED RAISED(KNUCKLES)) RAISED(KNUCKLE) THUMB
UP) THUMB.(BETWEEN(INDEX(MIDDLE.(STRAIGHT)) MIDDLE(RING) RING(LITTLE)) FORWARD HEEL
OVER(FOUR(RAISED(KNUCKLES)) TWO(FINGERS)) SIDE(BENT CONJOINED DIAGONAL) UNDER(FOUR(FINGERS)
INDEX(BENT) LITTLE(UP) THREE(FINGERS) TWO(FINGERS)))) HAND-FLAT.(BETWEEN(PALM(FACINGS))
FIVE(FINGERS(SPREAD.(BENT FOUR(BENT) HINGED.(NO(THUMB) THUMB(SIDE)) THUMB(FORWARD))))
FOUR(FINGERS.(BENT CONJOINED.(SPLIT) HINGED)) HEEL.(FIVE(FINGERS(SPREAD.(BENT FOUR(BENT))))
THUMB(SIDE)) SPLIT(CENTRE.(THUMB(SIDE.(BENT))) INDEX(THUMB(SIDE)) LITTLE) THUMB(BENT FORWARD SIDE))
HAND-HINGE.(FIVE(FINGERS(SPREAD(OPEN))) FOUR(FINGERS(CONJOINED)) INDEX.(HINGED MIDDLE(LITTLE
RING.(CONJOINED)) RING(LITTLE) THUMB.(LARGE OPEN SIDE SMALL)) LITTLE.(INDEX.(THUMB) THUMB)
MIDDLE.(RING(LITTLE)) NO(THUMB) OPEN.(NO(THUMB) THUMB(FORWARD SIDE))
RING.(DOWN(INDEX(THUMB(HOOK(MIDDLE))))) SMALL THUMB(BETWEEN(MIDDLE(RING)) SIDE.(TOUCHING(INDEX))))
HAND-HOOK.(CURLICUE INDEX(RING(LITTLE(IN OUT UNDER))) MIDDLE(RING(LITTLE(CONJOINED.(IN OUT)))
THUMB) RING(THUMB)) HAND-OVAL.(FIVE(FINGERS(SPREAD)) INDEX LITTLE(UP) NO(THUMB) RING(LITTLE)
THUMB(FORWARD SIDE)) HEAD.(MOVEMENT(CIRCLE) MOVEMENT-FLOORPLANE(CURVE STRAIGHT)
MOVEMENT-WALLPLANE(CURVE STRAIGHT TILT) RIM) LIMB(COMBINATION LENGTH-1 LENGTH-2 LENGTH-3 LENGTH-4
LENGTH-5 LENGTH-6 LENGTH-7) LIP(LOWER(OVER(UPPER)) UPPER(OVER(LOWER))) LIPS(PRESSED(TOGETHER))
LOCATION(DEPTH HEAD(NECK) HEIGHT LIMBS(DIGITS) TORSO WIDTH) LOCATION-FLOORPLANE(SPACE)
LOCATION-WALLPLANE(SPACE) MOUTH(CLOSED(CONTACT FORWARD NEUTRAL) CORNERS FROWN.(OPEN WRINKLED)
KISS.(FORWARD WRINKLED) OPEN(CIRCLE FORWARD OVAL.(WRINKLED YAWN) RECTANGLE.(WRINKLED YAWN)
WRINKLED) SMILE.(OPEN WRINKLED) TENSE.(FORWARD SUCKED) WRINKLES(DOUBLE SINGLE))
MOVEMENT-DIAGONAL(AWAY(LARGE LARGEST MEDIUM SMALL) BETWEEN(AWAY(LARGE LARGEST MEDIUM SMALL)
TOWARDS(LARGE LARGEST MEDIUM SMALL)) TOWARDS(LARGE LARGEST MEDIUM SMALL))
MOVEMENT-FLOORPLANE(ARM(CIRCLE(HITTING(WALL(LARGE(DOUBLE SINGLE) MEDIUM(DOUBLE SINGLE) SMALL(DOUBLE
SINGLE))))) BEND BOX(LARGE MEDIUM SMALL) CHECK CORNER(LARGE MEDIUM SMALL) CROSS CURVE(COMBINED
HITTING(CEILING(LARGE SMALL) FLOOR(LARGE SMALL)) LARGE LARGEST MEDIUM SMALL)
DOUBLE(ALTERNATING.(WRIST(FLEX)) STRAIGHT WRIST(FLEX)) FINGER(CIRCLES(HITTING(WALL(DOUBLE SINGLE)))
CONTACT) HUMP(HITTING(CEILING(LARGE(DOUBLE TRIPLE) SMALL(DOUBLE TRIPLE)) FLOOR(LARGE(DOUBLE)
SMALL(DOUBLE) TRIPLE(LARGE(TRIPLE) SMALL(TRIPLE)))) SMALL) JAW LOOP(HITTING(CEILING(LARGE(DOUBLE
SINGLE) SMALL(DOUBLE SINGLE)) FLOOR(LARGE(DOUBLE SINGLE) SMALL(DOUBLE SINGLE))) SMALL) PEAKS(LARGE
MEDIUM SMALL) SHAKING(PARALLEL) SINGLE(STRAIGHT(LARGE LARGEST MEDIUM SMALL) WRIST(FLEX))
TRIPLE(ALTERNATING(MOVEMENT WRIST(FLEX)) STRAIGHT(MOVEMENT) WRIST(FLEX)) WAVE(HITTING(CEILING(LARGE
SMALL) FLOOR(LARGE SMALL)) LARGE SMALL SNAKE) WRIST(CIRCLE(HITTING(WALL(DOUBLE SINGLE))))
ZIGZAG(LARGE MEDIUM SMALL)) MOVEMENT-HINGE(DOWN(SEQUENTIAL) SIDE(TO(SIDE(SCISSORS)))
UP(DOWN(ALTERNATING(LARGE SMALL) LARGE SMALL) SEQUENTIAL))
MOVEMENT-WALLPLANE(ARM(CIRCLE(MEDIUM(DOUBLE SINGLE) SMALL(DOUBLE SINGLE))) BEND(LARGE MEDIUM SMALL)
BOX(LARGE MEDIUM SMALL) CHECK(LARGE MEDIUM SMALL) CORNER(LARGE MEDIUM ROTATION SMALL) CROSS
CURVE(HALF-CIRCLE(LARGE LARGEST MEDIUM SMALL) HITTING(CHEST FRONT(WALL)) QUARTER(LARGE LARGEST
MEDIUM SMALL) THEN(STRAIGHT) THREE-QUARTER(CIRCLE(MEDIUM SMALL))) CURVED(CROSS(MEDIUM SMALL))
DOUBLE(ALTERNATING.(WRIST(FLEX)) STRAIGHT WRIST(FLEX)) FINGER(CIRCLES(DOUBLE SINGLE) CONTACT)
HUMP(HITTING(CHEST FRONT(WALL)) LARGE MEDIUM SMALL) JAW LOOP(HITTING(CHEST FRONT(WALL)) LARGE
MEDIUM SMALL.(DOUBLE)) PEAKS(LARGE MEDIUM SMALL) SHAKING SINGLE(STRAIGHT(LARGE LARGEST MEDIUM
SMALL) WRIST(FLEX)) TRIPLE(ALTERNATING.(WRIST(FLEX)) STRAIGHT(MOVEMENT) WRIST(FLEX))
WAVE(CURVE(DOUBLE(LARGE MEDIUM SMALL) TRIPLE(LARGE MEDIUM SMALL)) DIAGONAL(PATH(LARGE MEDIUM
SMALL)) HITTING(CHEST FRONT(WALL))) WRIST(CIRCLE(FRONT(DOUBLE SINGLE))) ZIGZAG(LARGE MEDIUM SMALL))
NECK NOSE(CONTACT NEUTRAL WIGGLES WRINKLES) PARENTHESIS ROTATION(MODIFIER-10 MODIFIER-11
MODIFIER-12 MODIFIER-13 MODIFIER-14 MODIFIER-15 MODIFIER-16 MODIFIER-2 MODIFIER-3 MODIFIER-4
MODIFIER-5 MODIFIER-6 MODIFIER-7 MODIFIER-8 MODIFIER-9)
ROTATION-FLOORPLANE(ALTERNATING.(HITTING(CEILING FLOOR)) DOUBLE.(HITTING(CEILING FLOOR))
SINGLE.(HITTING(CEILING FLOOR))) ROTATION-WALLPLANE(ALTERNATE ALTERNATING(HITTING(CHEST
FRONT(WALL))) DOUBLE.(HITTING(CHEST FRONT(WALL))) SINGLE.(HITTING(CHEST FRONT(WALL)))) RUB(BETWEEN
MULTIPLE SINGLE) SEMICOLON SHOULDER(HIP(POSITIONS SPINE) TILTING(FROM(WAIST)))
SQUEEZE(FLICK(ALTERNATING) LARGE(MULTIPLE SINGLE) SEQUENTIAL SMALL(MULTIPLE SINGLE)) STRIKE(BETWEEN
MULTIPLE SINGLE) SURFACE(BETWEEN SYMBOLS) TEETH.(BITE(LIPS) MOVEMENT ON(LIPS.(MOVEMENT)
TONGUE.(MOVEMENT))) TENSE(CHEEKS(HIGH LOW MIDDLE)) TONGUE(CENTRE(INSIDE(MOUTH) STICKING(OUT))
INSIDE(MOUTH(RELAXED)) LICKING(LIPS) MOVES(AGAINST(CHEEK)) STICKING(OUT(FAR)) TIP(BETWEEN(LIPS)
TOUCHING(INSIDE(MOUTH)))) TORSO-FLOORPLANE(TWISTING) TORSO-WALLPLANE(CURVED(BEND)
STRAIGHT(STRETCH)) TOUCH(BETWEEN MULTIPLE SINGLE) TRAVEL-FLOORPLANE(ROTATION-FLOORPLANE(ALTERNATING
DOUBLE SINGLE) ROTATION-WALLPLANE(ALTERNATING DOUBLE SINGLE) SHAKING)
TRAVEL-WALLPLANE(ARM(SPIRAL(DOUBLE SINGLE TRIPLE)) ROTATION-FLOORPLANE(ALTERNATING DOUBLE SINGLE)
ROTATION-WALLPLANE(ALTERNATING DOUBLE SINGLE) SHAKING) UPPER(BODY(TILTING(FROM(HIP(JOINTS)))))
WALLPLANE(SHOULDER(HIP(MOVE)))) SILHOUETTE(OF(JAPAN))
SIMILAR(ABOVE(GREATER-THAN(ABOVE(EQUALS(SIGN))) LESS-THAN(ABOVE(EQUALS(SIGN)))) MINUS(SIMILAR)
OR(GREATER-THAN LESS-THAN)) SINE(WAVE) SINGLE(CHARACTER(INTRODUCER) GRAPHIC(CHARACTER(INTRODUCER))
HIGH-REVERSED-9(QUOTATION(MARK)) LEFT-POINTING(ANGLE(QUOTATION(MARK))) LOW-9(QUOTATION(MARK))
RIGHT-POINTING(ANGLE(QUOTATION(MARK))) SHIFT(THREE TWO)) SINGLE-SHIFT-2 SINGLE-SHIFT-3
SINHALA(ARCHAIC(DIGIT(EIGHT FIVE FOUR NINE ONE SEVEN SIX THREE TWO) NUMBER(EIGHTY FIFTY FORTY
NINETY ONE(HUNDRED THOUSAND) SEVENTY SIXTY TEN THIRTY TWENTY)) LETTER(AAYANNA AEEYANNA AEYANNA
AIYANNA ALPAPRAANA(BAYANNA CAYANNA DAYANNA DDAYANNA GAYANNA JAYANNA KAYANNA PAYANNA TAYANNA
TTAYANNA) AMBA(BAYANNA) AUYANNA AYANNA DANTAJA(LAYANNA NAYANNA SAYANNA) EEYANNA EYANNA FAYANNA
HAYANNA IIYANNA ILUUYANNA ILUYANNA IRUUYANNA IRUYANNA IYANNA KANTAJA(NAASIKYAYA)
MAHAAPRAANA(BAYANNA CAYANNA DAYANNA DDAYANNA GAYANNA JAYANNA KAYANNA PAYANNA TAYANNA TTAYANNA)
MAYANNA MUURDHAJA(LAYANNA NAYANNA SAYANNA) OOYANNA OYANNA RAYANNA SANYAKA(DAYANNA DDAYANNA GAYANNA
JAYANNA) TAALUJA(NAASIKYAYA SANYOOGA(NAAKSIKYAYA) SAYANNA) UUYANNA UYANNA VAYANNA YAYANNA)
LITH(DIGIT(EIGHT FIVE FOUR NINE ONE SEVEN SIX THREE TWO ZERO)) PUNCTUATION(KUNDDALIYA)
SIGN(AL-LAKUNA ANUSVARAYA CANDRABINDU VISARGAYA) VOWEL(SIGN(AELA-PILLA DIGA(AEDA-PILLA GAETTA-PILLA
GAYANUKITTA IS-PILLA KOMBUVA PAA-PILLA) GAETTA-PILLA GAYANUKITTA KETTI(AEDA-PILLA IS-PILLA
PAA-PILLA) KOMBU(DEKA) KOMBUVA.(HAA(AELA-PILLA DIGA(AELA-PILLA) GAYANUKITTA)))))
SIX(PETALLED(BLACK(AND(WHITE(FLORETTE)))) POINTED(BLACK(STAR) PINWHEEL(STAR)
STAR(WITH(MIDDLE(DOT))))) SIX-PER-EM(SPACE) SIXTEEN(POINTED(ASTERISK)) SKATEBOARD
SKI(AND(SKI(BOOT))) SKIER SKULL.(AND(CROSSBONES)) SKUNK
SLANTED(EQUAL(TO(OR(GREATER-THAN.(WITH(DOT(INSIDE))) LESS-THAN.(WITH(DOT(INSIDE))))))
NORTH(ARROW(WITH(HOOKED(HEAD) HORIZONTAL(TAIL))))) SLAVONIC(ASTERISK) SLED SLEEPING(ACCOMMODATION
FACE SYMBOL) SLEEPY(FACE) SLEUTH(OR(SPY)) SLICE(OF(PIZZA)) SLIGHTLY(FROWNING(FACE) SMILING(FACE))
SLOPE SLOPING(LARGE(AND OR)) SLOT(MACHINE) SLOTH SMALL(AIRPLANE AMPERSAND ASTERISK BLUE(DIAMOND)
COLON COMMA COMMERCIAL(AT) CONTAINS(AS(MEMBER) WITH(OVERBAR
VERTICAL(BAR(AT(END(OF(HORIZONTAL(STROKE)))))))) DOLLAR(SIGN) ELEMENT(OF.(WITH(OVERBAR
VERTICAL(BAR(AT(END(OF(HORIZONTAL(STROKE))))))))) EM(DASH) EQUALS(SIGN) EXCLAMATION(MARK)
FULL(STOP) GREATER-THAN(SIGN) HYPHEN-MINUS IDEOGRAPHIC(COMMA) LEFT(CURLY(BRACKET) PARENTHESIS
TORTOISE(SHELL(BRACKET))) LESS-THAN(SIGN) NUMBER(SIGN) ORANGE(DIAMOND) PERCENT(SIGN) PLUS(SIGN)
QUESTION(MARK) REVERSE(SOLIDUS) RIGHT(CURLY(BRACKET) PARENTHESIS TORTOISE(SHELL(BRACKET)))
ROMAN(NUMERAL(EIGHT ELEVEN FIFTY FIVE.(HUNDRED) FOUR NINE ONE.(HUNDRED THOUSAND) SEVEN SIX TEN
THREE TWELVE TWO)) SEMICOLON TILDE TWO(DOTS(OVER(ONE(DOT(PUNCTUATION))))) VEE(WITH(UNDERBAR)))
SMALLER(THAN.(OR(EQUAL(TO)))) SMASH(PRODUCT) SMILE SMILING(CAT(FACE(WITH(HEART-SHAPED(EYES)
OPEN(MOUTH)))) FACE(WITH(HALO HEART-SHAPED(EYES) HORNS OPEN(MOUTH.(AND(COLD(SWEAT) SMILING(EYES)
TIGHTLY-CLOSED(EYES)))) SMILING(EYES.(AND(HAND(COVERING(MOUTH)) THREE(HEARTS)))) SUNGLASSES TEAR)))
SMIRKING(FACE) SMOKING(SYMBOL) SNAIL SNAKE SNEEZING(FACE) SNOW(CAPPED(MOUNTAIN)) SNOWBOARDER
SNOWFLAKE SNOWMAN.(WITHOUT(SNOW)) SO SOCCER(BALL) SOCKS SOFT(HYPHEN ICE(CREAM) SHELL(FLOPPY(DISK)))
SOFTBALL SOFTWARE-FUNCTION(SYMBOL) SOGDIAN(COMBINING(CURVE(ABOVE BELOW) DOT(ABOVE BELOW) HOOK(ABOVE
BELOW) LONG(HOOK(BELOW)) RESH(BELOW) STROKE(BELOW) TWO(DOTS(ABOVE BELOW))) INDEPENDENT(SHIN)
LETTER(ALEPH AYIN BETH FETH GIMEL HE HETH KAPH LAMEDH LESH MEM NUN PE RESH-AYIN SADHE SAMEKH SHIN
TAW WAW YODH ZAYIN) NUMBER(ONE.(HUNDRED) TEN TWENTY) PUNCTUATION(CIRCLE(WITH(DOT))
HALF(CIRCLE(WITH(DOT))) TWO(CIRCLES(WITH(DOTS)) VERTICAL(BARS.(WITH(DOTS)))))) SOH
SOLID(QUILT(SQUARE(ORNAMENT.(IN(BLACK(SQUARE)))))) SOLIDUS.(WITH(OVERBAR)) SOM(SIGN)
SOON(WITH(RIGHTWARDS(ARROW(ABOVE)))) SORA(SOMPENG(DIGIT(EIGHT FIVE FOUR NINE ONE SEVEN SIX THREE
TWO ZERO) LETTER(AH BAH CAH DAH EEH EH GAH HAH IH JAH KAH LAH MAE MAH NAH NGAH NYAH OH PAH RAH SAH
TAH UH VAH YAH))) SOS SOUND(RECORDING(COPYRIGHT)) SOUTH(EAST(ARROW.(AND(SOUTH(WEST(ARROW)))
CROSSING(NORTH(EAST(ARROW))) TO(CORNER) WITH(HOOK)) BLACK(ARROW) DOUBLE(ARROW) POINTING(BUD LEAF
VINE(LEAF)) SANS-SERIF(ARROW) TRIANGLE-HEADED(ARROW.(TO(BAR))) WHITE(ARROW))
WEST(ARROW.(AND(NORTH(WEST(ARROW))) WITH(HOOK)) BLACK(ARROW) DOUBLE(ARROW) POINTING(BUD LEAF
VINE(LEAF)) SANS-SERIF(ARROW) TRIANGLE-HEADED(ARROW.(TO(BAR))) WHITE(ARROW)))
SOYOMBO(CLUSTER-INITIAL(LETTER(LA RA SA SHA)) FINAL(CONSONANT(SIGN(-A B D G K L M N NG R S SH)))
GEMINATION(MARK) HEAD(MARK(WITH(MOON(AND(SUN.(AND(FLAME TRIPLE(FLAME)))))))) LETTER(-A A BA BHA CA
CHA DA DDA DDHA DHA DZA GA GHA HA JA JHA KA KHA KSSA LA MA NA NGA NNA NYA PA PHA RA SA SHA SSA TA
THA TSA TSHA TTA TTHA VA YA ZA ZHA) MARK(DOUBLE(SHAD) PLUTA SHAD TSHEG) SIGN(ANUSVARA JIHVAMULIYA
UPADHMANIYA VISARGA) SUBJOINER TERMINAL(MARK-1 MARK-2) VOWEL(LENGTH(MARK) SIGN(AI AU E I O OE U UE
VOCALIC(L R)))) SP SPA SPACE SPAGHETTI SPARKLE SPARKLES SPARKLING(HEART) SPEAK-NO-EVIL(MONKEY)
SPEAKER.(WITH(CANCELLATION(STROKE) ONE(SOUND(WAVE)) THREE(SOUND(WAVES))))
SPEAKING(HEAD(IN(SILHOUETTE))) SPEECH(BALLOON) SPEEDBOAT SPESMILO(SIGN)
SPHERICAL(ANGLE.(OPENING(LEFT UP))) SPIDER.(WEB) SPIRAL(CALENDAR(PAD) NOTE(PAD) SHELL)
SPLASHING(SWEAT(SYMBOL)) SPONGE SPOOL(OF(THREAD)) SPOON SPORTS(MEDAL) SPOUTING(WHALE)
SQUARE(A(OVER(M)) AARU AM ANPEA APAATO ARUHUA AU BAARERU BAR BEETA BIRU BORUTO BQ BUSSYERU
C(OVER(KG)) CAL CAP CC CD CM.(CUBED SQUARED) CO CORPORATION CUP DA DAASU DB DESI DJ DL DM.(CUBED
SQUARED) DORU EEKAA ERA(NAME(HEISEI MEIZI REIWA SYOUWA TAISYOU)) ERG ESUKUUDO EV FM FOOT
FOUR(CORNERS) GAL GANMA GARON GB GHZ GIGA GINII GIRUDAA GPA GURAMU GURAMUTON GY HA HAITU HEKUTAARU
HERUTU HG HIRAGANA(HOKA) HON HOON HOORU HP HPA HUARADDO HUIITO HURAN HZ IMAGE(OF.(OR(EQUAL(TO)
NOT(EQUAL(TO))))) IN ININGU INTI IU K(OHM) KA KAIRI KARATTO KARORII KB KCAL KEESU KG KHZ KIRO
KIROGURAMU KIROMEETORU KIROWATTO KK KL KM.(CAPITAL CUBED SQUARED) KOOPO KORUNA KPA KT KUROONE
KURUZEIRO KV KW KYURII LEFT(OPEN(BOX(OPERATOR))) LM LN LOG LOZENGE LX M(CUBED OHM OVER(S.(SQUARED))
SQUARED) MA MAHHA MAIKURO MAIRU MANSYON MARUKU MB.(SMALL) MEETORU MEGA MEGATON MG MHZ MIKURON MIL
MIRI MIRIBAARU ML MM.(CUBED SQUARED) MOL MPA MS MU(A F G L M S V W) MV.(MEGA) MW.(MEGA) NA NANO NF
NM NOTTO NS NV NW ONSU OOMU ORIGINAL(OF.(OR(EQUAL(TO) NOT(EQUAL(TO))))) OV PA.(AMPS) PAASENTO PAATU
PC PEEZI PENIHI PENSU PESO PF PH PIASUTORU PIKO PIKURU PM POINTO PONDO POSITION(INDICATOR) PPM PR
PS PV PW RAD.(OVER(S.(SQUARED))) REMU RENTOGEN RIGHT(OPEN(BOX(OPERATOR))) RIRA RITTORU ROOT RUPII
RUUBURU SAIKURU SANTIIMU SENTI SENTO SIRINGU SR SV TARGET THZ TON UON V(OVER(M)) WATTO WB
WITH(BOTTOM(HALF(BLACK)) CONTOURED(OUTLINE) DIAGONAL(CROSSHATCH(FILL)) HORIZONTAL(FILL)
LEFT(HALF(BLACK)) LOWER(LEFT(DIAGONAL(HALF(BLACK))) RIGHT(DIAGONAL(HALF(BLACK))))
ORTHOGONAL(CROSSHATCH(FILL)) RIGHT(HALF(BLACK)) TOP(HALF(BLACK)) UPPER(LEFT(DIAGONAL(HALF(BLACK))
TO(LOWER(RIGHT(FILL)))) RIGHT(DIAGONAL(HALF(BLACK)) TO(LOWER(LEFT(FILL))))) VERTICAL(FILL)) YAADO
YAARU YUAN) SQUARED(ASTERISK CJK(UNIFIED(IDEOGRAPH-4E00 IDEOGRAPH-4E09 IDEOGRAPH-4E2D
IDEOGRAPH-4E8C IDEOGRAPH-4EA4 IDEOGRAPH-518D IDEOGRAPH-521D IDEOGRAPH-524D IDEOGRAPH-5272
IDEOGRAPH-53CC IDEOGRAPH-53F3 IDEOGRAPH-5408 IDEOGRAPH-5439 IDEOGRAPH-55B6 IDEOGRAPH-58F0
IDEOGRAPH-591A IDEOGRAPH-5929 IDEOGRAPH-5B57 IDEOGRAPH-5DE6 IDEOGRAPH-5F8C IDEOGRAPH-624B
IDEOGRAPH-6253 IDEOGRAPH-6295 IDEOGRAPH-6307 IDEOGRAPH-6355 IDEOGRAPH-6599 IDEOGRAPH-65B0
IDEOGRAPH-6620 IDEOGRAPH-6708 IDEOGRAPH-6709 IDEOGRAPH-6E80 IDEOGRAPH-6F14 IDEOGRAPH-7121
IDEOGRAPH-751F IDEOGRAPH-7533 IDEOGRAPH-7981 IDEOGRAPH-7A7A IDEOGRAPH-7D42 IDEOGRAPH-89E3
IDEOGRAPH-8CA9 IDEOGRAPH-8D70 IDEOGRAPH-904A IDEOGRAPH-914D)) CL COOL DOT(OPERATOR) EIGHT(K)
FALLING(DIAGONAL(SLASH)) FIVE(POINT(ONE)) FOUR(DOT(PUNCTUATION) K) FREE HC HDR HI-RES HV ID
KATAKANA(DE KOKO SA) KEY LATIN(CAPITAL(LETTER(A B C D E F G H I J K L M N O P Q R S T U V W X Y Z))
SMALL(LETTER(D))) LOGICAL(AND OR) LOSSLESS MINUS MV NEW NG OK ONE(HUNDRED(TWENTY(P))) PLUS PPV
RISING(DIAGONAL(SLASH)) SALTIRE SD SECOND(SCREEN) SEVEN(POINT(ONE)) SHV SIXTY(P) SMALL(CIRCLE) SOS
SQUARE SS THREE(D) TIMES TWENTY-TWO(POINT(TWO)) TWO(K) UHD UP(WITH(EXCLAMATION(MARK))) VOD VS WC)
SQUAT(BLACK(RIGHTWARDS(ARROW))) SQUID SS2 SS3 SSA ST STADIUM STAFF(OF(AESCULAPIUS HERMES))
STAMPED(ENVELOPE) STANDING(PERSON) STAR(AND(CRESCENT) EQUALS OF(DAVID) OPERATOR
WITH(LEFT(HALF(BLACK)) RIGHT(HALF(BLACK)))) START(OF(GUARDED(AREA) HEADING PROTECTED(AREA)
SELECTED(AREA) STRING TEXT)) STATION STATUE(OF(LIBERTY)) STEAM(LOCOMOTIVE) STEAMING(BOWL)
STENOGRAPHIC(FULL(STOP)) STETHOSCOPE STICK(FIGURE.(LEANING(LEFT RIGHT) WITH(ARMS(RAISED) DRESS)))
STOCK(CHART) STOPWATCH STRAIGHT(RULER) STRAIGHTNESS STRAWBERRY STRESS(OUTLINED(WHITE(STAR)))
STRICTLY(EQUIVALENT(TO)) STRING(TERMINATOR) STS STUDIO(MICROPHONE) STUFFED(FLATBREAD) STUPA STX SUB
SUBSCRIPT(EIGHT EQUALS(SIGN) FIVE FOUR LEFT(PARENTHESIS) MINUS NINE ONE PLUS(SIGN)
RIGHT(PARENTHESIS) SEVEN SIX THREE TWO ZERO) SUBSET(ABOVE(RIGHTWARDS(ARROW) SUBSET SUPERSET)
OF.(ABOVE(ALMOST(EQUAL(TO)) EQUALS(SIGN) NOT(EQUAL(TO)) TILDE(OPERATOR))
OR(EQUAL(TO.(WITH(DOT(ABOVE))))) WITH(NOT(EQUAL(TO)))) WITH(DOT MULTIPLICATION(SIGN(BELOW))
PLUS(SIGN(BELOW)))) SUBSTITUTE SUCCEEDS.(ABOVE(ALMOST(EQUAL(TO)) EQUALS(SIGN) NOT(ALMOST(EQUAL(TO))
EQUAL(TO)) SINGLE-LINE(EQUALS(SIGN) NOT(EQUAL(TO)))) BUT(NOT(EQUIVALENT(TO))) OR(EQUAL(TO)
EQUIVALENT(TO)) UNDER(RELATION)) SUMMATION(BOTTOM TOP WITH(INTEGRAL)) SUN.(BEHIND(CLOUD)
WITH(FACE)) SUNDANESE(AVAGRAHA CONSONANT(SIGN(PAMINGKAL PANYAKRA PANYIKU PASANGAN(MA WA)))
DIGIT(EIGHT FIVE FOUR NINE ONE SEVEN SIX THREE TWO ZERO) LETTER(A AE BA BHA CA DA E EU FA FINAL(K
M) GA HA I JA KA KHA LA LEU MA NA NGA NYA O PA QA RA REU SA SYA TA U VA WA XA YA ZA)
PUNCTUATION(BINDU(BA(SATANGA) CAKRA DA(SATANGA) KA(SATANGA) LEU(SATANGA) PANGLONG PURNAMA SURYA))
SIGN(PAMAAEH PANGLAYAR PANGWISAD PANYECEK VIRAMA) VOWEL(SIGN(PAMEPET PANAELAENG PANEULEUNG PANGHULU
PANOLONG PANYUKU))) SUNFLOWER SUNRISE.(OVER(MOUNTAINS)) SUNSET(OVER(BUILDINGS)) SUPERHERO
SUPERSCRIPT(EIGHT EQUALS(SIGN) FIVE FOUR LATIN(SMALL(LETTER(I N))) LEFT(PARENTHESIS) MINUS NINE ONE
PLUS(SIGN) RIGHT(PARENTHESIS) SEVEN SIX THREE TWO ZERO) SUPERSET(ABOVE(LEFTWARDS(ARROW) SUBSET
SUPERSET) BESIDE(AND(JOINED(BY(DASH(WITH(SUBSET))))) SUBSET) OF.(ABOVE(ALMOST(EQUAL(TO))
EQUALS(SIGN) NOT(EQUAL(TO)) TILDE(OPERATOR)) OR(EQUAL(TO.(WITH(DOT(ABOVE))))) WITH(NOT(EQUAL(TO))))
PRECEDING(SOLIDUS) WITH(DOT MULTIPLICATION(SIGN(BELOW)) PLUS(SIGN(BELOW)))) SUPERVILLAIN
SURFACE(INTEGRAL) SURFER SUSHI SUSPENSION(RAILWAY) SWAN SWASH(AMPERSAND(ORNAMENT)) SWIMMER
SWUNG(DASH) SYLOTI(NAGRI(LETTER(A BHO BO CHO CO DDHO DDO DHO DO E GHO GO HO I JHO JO KHO KO LO MO
NO O PHO PO RO RRO SO THO TO TTHO TTO U) POETRY(MARK-1 MARK-2 MARK-3 MARK-4)
SIGN(ALTERNATE(HASANTA) ANUSVARA DVISVARA HASANTA) VOWEL(SIGN(A E I OO U)))) SYMBOL(FOR(ACKNOWLEDGE
BACKSPACE BELL CANCEL CARRIAGE(RETURN) DATA(LINK(ESCAPE)) DELETE.(FORM(TWO)) DEVICE(CONTROL(FOUR
ONE THREE TWO)) END(OF(MEDIUM TEXT TRANSMISSION.(BLOCK))) ENQUIRY ESCAPE FILE(SEPARATOR) FORM(FEED)
GROUP(SEPARATOR) HORIZONTAL(TABULATION) LINE(FEED) MARKS(CHAPTER) NEGATIVE(ACKNOWLEDGE) NEWLINE
NULL RECORD(SEPARATOR) SAMARITAN(SOURCE) SHIFT(IN OUT) SPACE START(OF(HEADING TEXT))
SUBSTITUTE.(FORM(TWO)) SYNCHRONOUS(IDLE) TYPE(A(ELECTRONICS)) UNIT(SEPARATOR)
VERTICAL(TABULATION))) SYMMETRY SYN SYNAGOGUE SYNCHRONOUS(IDLE) SYRIAC(ABBREVIATION(MARK) BARREKH
COLON(SKEWED(LEFT RIGHT)) CONTRACTION DOTTED(ZLAMA(ANGULAR HORIZONTAL)) END(OF(PARAGRAPH))
ESASA(ABOVE BELOW) FEMININE(DOT) HARKLEAN(ASTERISCUS METOBELUS OBELUS) HBASA(ABOVE BELOW)
HBASA-ESASA(DOTTED) HORIZONTAL(COLON) LETTER(ALAPH BETH DALATH DOTLESS(DALATH(RISH)) E
FINAL(SEMKATH) GAMAL.(GARSHUNI) HE HETH KAPH LAMADH MALAYALAM(BHA JA LLA LLLA NGA NNA NNNA NYA RA
SSA TTA) MIM NUN PE PERSIAN(BHETH DHALATH GHAMAL) QAPH REVERSED(PE) RISH SADHE SEMKATH SHIN
SOGDIAN(FE KHAPH ZHAIN) SUPERSCRIPT(ALAPH) TAW TETH.(GARSHUNI) WAW YUDH.(HE) ZAIN) MUSIC
OBLIQUE(LINE(ABOVE BELOW)) PTHAHA(ABOVE BELOW DOTTED) QUSHSHAYA RBASA(ABOVE BELOW) RUKKAKHA RWAHA
SUBLINEAR(COLON.(SKEWED(LEFT RIGHT)) FULL(STOP)) SUPRALINEAR(COLON.(SKEWED(LEFT)) FULL(STOP))
THREE(DOTS(ABOVE BELOW)) TWO(VERTICAL(DOTS(ABOVE BELOW))) ZQAPHA(ABOVE BELOW DOTTED)) SYRINGE T-REX
T-SHIRT TAB TABLE(TENNIS(PADDLE(AND(BALL)))) TACO TAG(AMPERSAND APOSTROPHE ASTERISK
CIRCUMFLEX(ACCENT) COLON COMMA COMMERCIAL(AT) DIGIT(EIGHT FIVE FOUR NINE ONE SEVEN SIX THREE TWO
ZERO) DOLLAR(SIGN) EQUALS(SIGN) EXCLAMATION(MARK) FULL(STOP) GRAVE(ACCENT) GREATER-THAN(SIGN)
HYPHEN-MINUS LATIN(CAPITAL(LETTER(A B C D E F G H I J K L M N O P Q R S T U V W X Y Z))
SMALL(LETTER(A B C D E F G H I J K L M N O P Q R S T U V W X Y Z))) LEFT(CURLY(BRACKET) PARENTHESIS
SQUARE(BRACKET)) LESS-THAN(SIGN) LOW(LINE) NUMBER(SIGN) PERCENT(SIGN) PLUS(SIGN) QUESTION(MARK)
QUOTATION(MARK) REVERSE(SOLIDUS) RIGHT(CURLY(BRACKET) PARENTHESIS SQUARE(BRACKET)) SEMICOLON
SOLIDUS SPACE TILDE VERTICAL(LINE)) TAGALOG(LETTER(A ARCHAIC(RA) BA DA GA HA I KA LA MA NA NGA PA
RA SA TA U WA YA) SIGN(PAMUDPOD VIRAMA) VOWEL(SIGN(I U))) TAGBANWA(LETTER(A BA DA GA I KA LA MA NA
NGA PA SA TA U WA YA) VOWEL(SIGN(I U))) TAI(LE(LETTER(A AI AUE E EE EH FA HA I KA KHA LA MA NA NGA
O OO PA PHA QA SA TA THA TONE-2 TONE-3 TONE-4 TONE-5 TONE-6 TSA TSHA U UE VA XA YA))
THAM(COMBINING(CRYPTOGRAMMIC(DOT)) CONSONANT(SIGN(BA FINAL(NGA) HIGH(RATHA(OR(LOW(PA))))
LA(TANG(LAI)) LOW(PA) MA MEDIAL(LA RA) SA)) HORA(DIGIT(EIGHT FIVE FOUR NINE ONE SEVEN SIX THREE TWO
ZERO)) LETTER(A BA DA EE GREAT(SA) HIGH(CA CHA FA HA KA KHA KXA PA PHA RATHA SA SHA SSA TA THA YA)
I II LA LAE LLA LOW(CA CHA FA HA KA KHA KXA PA PHA RATHA SA TA THA YA) LUE MA NA NGA NYA OO RA RANA
RATA RUE U UU WA) SIGN(CAANG DOKMAI HANG HOY KAAN KAANKUU KEOW KHUEN(TONE-3 TONE-4 TONE-5)
KHUEN-LUE(KARAN) MAI(KANG.(LAI) SAM YAMOK) RA(HAAM) REVERSED(ROTATED(RANA)) SAKOT SATKAAN
SATKAANKUU SAWAN TONE-1 TONE-2 WIANG WIANGWAAK) THAM(DIGIT(EIGHT FIVE FOUR NINE ONE SEVEN SIX THREE
TWO ZERO)) VOWEL(SIGN(A AA AE AI E I II MAI(SAT) O OA(ABOVE BELOW) OO OY TALL(AA) THAM(AI) U UE UU
UUE))) VIET(LETTER(HIGH(BO CHO CO DO FO GO HO KHHO KHO KO LO MO NGO NO NYO O PHO PO RO SO THO TO VO
YO) LOW(BO CHO CO DO FO GO HO KHHO KHO KO LO MO NGO NO NYO O PHO PO RO SO THO TO VO YO)) MAI(KANG
KHIT) SYMBOL(HO(HOI) KOI(KOI) KON NUENG SAM) TONE(MAI(EK NUENG SONG THO)) VOWEL(AA AM AN AUE AY E I
IA O U UA UE UEA))) TAKEOUT(BOX) TAKRI(ABBREVIATION(SIGN) DIGIT(EIGHT FIVE FOUR NINE ONE SEVEN SIX
THREE TWO ZERO) LETTER(A AA AI ARCHAIC(KHA) AU BA BHA CA CHA DA DDA DDHA DHA E GA GHA HA I II JA
JHA KA KHA LA MA NA NGA NNA NYA O PA PHA RA RRA SA SHA TA THA TTA TTHA U UU VA YA) SIGN(ANUSVARA
NUKTA VIRAMA VISARGA) VOWEL(SIGN(AA AI AU E I II O U UU))) TALLY(MARK(FIVE ONE)) TAMALE
TAMIL(AND(ODD(SIGN)) AS(ABOVE(SIGN)) AU(LENGTH(MARK)) CREDIT(SIGN) CURRENT(SIGN) DAY(SIGN)
DEBIT(SIGN) DIGIT(EIGHT FIVE FOUR NINE ONE SEVEN SIX THREE TWO ZERO) DRY(CULTIVATION(SIGN))
FRACTION(DOWNSCALING(FACTOR(KIIZH)) ONE(EIGHTH EIGHTIETH FIFTH FORTIETH HALF-1 HALF-2
ONE-HUNDRED-AND-SIXTIETH QUARTER SIXTEENTH-1 SIXTEENTH-2 SIXTY-FOURTH TENTH THIRTY-SECOND
THREE-HUNDRED-AND-TWENTIETH TWENTIETH) THREE(EIGHTIETHS QUARTERS SIXTEENTHS SIXTY-FOURTHS
TWENTIETHS)) IN(POSSESSION(SIGN)) LAND(SIGN) LETTER(A AA AI AU CA E EE HA I II JA KA LA LLA LLLA MA
NA NGA NNA NNNA NYA O OO PA RA RRA SA SHA SSA TA TTA U UU VA YA) MONTH(SIGN) NUMBER(ONE(HUNDRED
THOUSAND) SIGN TEN) OM PUNCTUATION(END(OF(TEXT))) RUPEE(SIGN) SALT(PAN(SIGN)) SIGN(AAZHAAKKU
ANUSVARA CEVITU KAACU KURUNI KUZHI MUKKURUNI MUTHALIYA MUUVUZHAKKU NEL PAARAM PANAM PATHAKKU PON
UZHAKKU VAKAIYARAA VARAAKAN VELI VIRAMA VISARGA) SPENT(SIGN) STARTING(FROM(SIGN)) TOTAL(SIGN)
TRADITIONAL(CREDIT(SIGN) NUMBER(SIGN)) VOWEL(SIGN(AA AI AU E EE I II O OO U UU))
WET(CULTIVATION(SIGN)) YEAR(SIGN)) TANABATA(TREE) TANGERINE TANGSA(DIGIT(EIGHT FIVE FOUR NINE ONE
SEVEN SIX THREE TWO ZERO) LETTER(AC AQ AWC AWQ AWX AWZ AX AZ BA CA CHA DA DHA EC EQ EX EZ FA
FINAL(NG) GA GHA HA HTA HTTA IC IQ IX IZ KA KHA LA LONG(UEX) MA MC MQ MX MZ NA NGA NHA NYA OC OQ OX
OZ PA PHA RA SA SHA SHORT(AWX UEZ) TA THA TSA UC UEC UEQ UEX UEZ UIC UIQ UIUC UIUQ UIUX UIUZ UIX
UIZ UQ UX UZ VC VQ VX VZ WA XA YA ZA)) TANGUT(COMPONENT-001 COMPONENT-002 COMPONENT-003
COMPONENT-004 COMPONENT-005 COMPONENT-006 COMPONENT-007 COMPONENT-008 COMPONENT-009 COMPONENT-010
COMPONENT-011 COMPONENT-012 COMPONENT-013 COMPONENT-014 COMPONENT-015 COMPONENT-016 COMPONENT-017
COMPONENT-018 COMPONENT-019 COMPONENT-020 COMPONENT-021 COMPONENT-022 COMPONENT-023 COMPONENT-024
COMPONENT-025 COMPONENT-026 COMPONENT-027 COMPONENT-028 COMPONENT-029 COMPONENT-030 COMPONENT-031
COMPONENT-032 COMPONENT-033 COMPONENT-034 COMPONENT-035 COMPONENT-036 COMPONENT-037 COMPONENT-038
COMPONENT-039 COMPONENT-040 COMPONENT-041 COMPONENT-042 COMPONENT-043 COMPONENT-044 COMPONENT-045
COMPONENT-046 COMPONENT-047 COMPONENT-048 COMPONENT-049 COMPONENT-050 COMPONENT-051 COMPONENT-052
COMPONENT-053 COMPONENT-054 COMPONENT-055 COMPONENT-056 COMPONENT-057 COMPONENT-058 COMPONENT-059
COMPONENT-060 COMPONENT-061 COMPONENT-062 COMPONENT-063 COMPONENT-064 COMPONENT-065 COMPONENT-066
COMPONENT-067 COMPONENT-068 COMPONENT-069 COMPONENT-070 COMPONENT-071 COMPONENT-072 COMPONENT-073
COMPONENT-074 COMPONENT-075 COMPONENT-076 COMPONENT-077 COMPONENT-078 COMPONENT-079 COMPONENT-080
COMPONENT-081 COMPONENT-082 COMPONENT-083 COMPONENT-084 COMPONENT-085 COMPONENT-086 COMPONENT-087
COMPONENT-088 COMPONENT-089 COMPONENT-090 COMPONENT-091 COMPONENT-092 COMPONENT-093 COMPONENT-094
COMPONENT-095 COMPONENT-096 COMPONENT-097 COMPONENT-098 COMPONENT-099 COMPONENT-100 COMPONENT-101
COMPONENT-102 COMPONENT-103 COMPONENT-104 COMPONENT-105 COMPONENT-106 COMPONENT-107 COMPONENT-108
COMPONENT-109 COMPONENT-110 COMPONENT-111 COMPONENT-112 COMPONENT-113 COMPONENT-114 COMPONENT-115
COMPONENT-116 COMPONENT-117 COMPONENT-118 COMPONENT-119 COMPONENT-120 COMPONENT-121 COMPONENT-122
COMPONENT-123 COMPONENT-124 COMPONENT-125 COMPONENT-126 COMPONENT-127 COMPONENT-128 COMPONENT-129
COMPONENT-130 COMPONENT-131 COMPONENT-132 COMPONENT-133 COMPONENT-134 COMPONENT-135 COMPONENT-136
COMPONENT-137 COMPONENT-138 COMPONENT-139 COMPONENT-140 COMPONENT-141 COMPONENT-142 COMPONENT-143
COMPONENT-144 COMPONENT-145 COMPONENT-146 COMPONENT-147 COMPONENT-148 COMPONENT-149 COMPONENT-150
COMPONENT-151 COMPONENT-152 COMPONENT-153 COMPONENT-154 COMPONENT-155 COMPONENT-156 COMPONENT-157
COMPONENT-158 COMPONENT-159 COMPONENT-160 COMPONENT-161 COMPONENT-162 COMPONENT-163 COMPONENT-164
COMPONENT-165 COMPONENT-166 COMPONENT-167 COMPONENT-168 COMPONENT-169 COMPONENT-170 COMPONENT-171
COMPONENT-172 COMPONENT-173 COMPONENT-174 COMPONENT-175 COMPONENT-176 COMPONENT-177 COMPONENT-178
COMPONENT-179 COMPONENT-180 COMPONENT-181 COMPONENT-182 COMPONENT-183 COMPONENT-184 COMPONENT-185
COMPONENT-186 COMPONENT-187 COMPONENT-188 COMPONENT-189 COMPONENT-190 COMPONENT-191 COMPONENT-192
COMPONENT-193 COMPONENT-194 COMPONENT-195 COMPONENT-196 COMPONENT-197 COMPONENT-198 COMPONENT-199
COMPONENT-200 COMPONENT-201 COMPONENT-202 COMPONENT-203 COMPONENT-204 COMPONENT-205 COMPONENT-206
COMPONENT-207 COMPONENT-208 COMPONENT-209 COMPONENT-210 COMPONENT-211 COMPONENT-212 COMPONENT-213
COMPONENT-214 COMPONENT-215 COMPONENT-216 COMPONENT-217 COMPONENT-218 COMPONENT-219 COMPONENT-220
COMPONENT-221 COMPONENT-222 COMPONENT-223 COMPONENT-224 COMPONENT-225 COMPONENT-226 COMPONENT-227
COMPONENT-228 COMPONENT-229 COMPONENT-230 COMPONENT-231 COMPONENT-232 COMPONENT-233 COMPONENT-234
COMPONENT-235 COMPONENT-236 COMPONENT-237 COMPONENT-238 COMPONENT-239 COMPONENT-240 COMPONENT-241
COMPONENT-242 COMPONENT-243 COMPONENT-244 COMPONENT-245 COMPONENT-246 COMPONENT-247 COMPONENT-248
COMPONENT-249 COMPONENT-250 COMPONENT-251 COMPONENT-252 COMPONENT-253 COMPONENT-254 COMPONENT-255
COMPONENT-256 COMPONENT-257 COMPONENT-258 COMPONENT-259 COMPONENT-260 COMPONENT-261 COMPONENT-262
COMPONENT-263 COMPONENT-264 COMPONENT-265 COMPONENT-266 COMPONENT-267 COMPONENT-268 COMPONENT-269
COMPONENT-270 COMPONENT-271 COMPONENT-272 COMPONENT-273 COMPONENT-274 COMPONENT-275 COMPONENT-276
COMPONENT-277 COMPONENT-278 COMPONENT-279 COMPONENT-280 COMPONENT-281 COMPONENT-282 COMPONENT-283
COMPONENT-284 COMPONENT-285 COMPONENT-286 COMPONENT-287 COMPONENT-288 COMPONENT-289 COMPONENT-290
COMPONENT-291 COMPONENT-292 COMPONENT-293 COMPONENT-294 COMPONENT-295 COMPONENT-296 COMPONENT-297
COMPONENT-298 COMPONENT-299 COMPONENT-300 COMPONENT-301 COMPONENT-302 COMPONENT-303 COMPONENT-304
COMPONENT-305 COMPONENT-306 COMPONENT-307 COMPONENT-308 COMPONENT-309 COMPONENT-310 COMPONENT-311
COMPONENT-312 COMPONENT-313 COMPONENT-314 COMPONENT-315 COMPONENT-316 COMPONENT-317 COMPONENT-318
COMPONENT-319 COMPONENT-320 COMPONENT-321 COMPONENT-322 COMPONENT-323 COMPONENT-324 COMPONENT-325
COMPONENT-326 COMPONENT-327 COMPONENT-328 COMPONENT-329 COMPONENT-330 COMPONENT-331 COMPONENT-332
COMPONENT-333 COMPONENT-334 COMPONENT-335 COMPONENT-336 COMPONENT-337 COMPONENT-338 COMPONENT-339
COMPONENT-340 COMPONENT-341 COMPONENT-342 COMPONENT-343 COMPONENT-344 COMPONENT-345 COMPONENT-346
COMPONENT-347 COMPONENT-348 COMPONENT-349 COMPONENT-350 COMPONENT-351 COMPONENT-352 COMPONENT-353
COMPONENT-354 COMPONENT-355 COMPONENT-356 COMPONENT-357 COMPONENT-358 COMPONENT-359 COMPONENT-360
COMPONENT-361 COMPONENT-362 COMPONENT-363 COMPONENT-364 COMPONENT-365 COMPONENT-366 COMPONENT-367
COMPONENT-368 COMPONENT-369 COMPONENT-370 COMPONENT-371 COMPONENT-372 COMPONENT-373 COMPONENT-374
COMPONENT-375 COMPONENT-376 COMPONENT-377 COMPONENT-378 COMPONENT-379 COMPONENT-380 COMPONENT-381
COMPONENT-382 COMPONENT-383 COMPONENT-384 COMPONENT-385 COMPONENT-386 COMPONENT-387 COMPONENT-388
COMPONENT-389 COMPONENT-390 COMPONENT-391 COMPONENT-392 COMPONENT-393 COMPONENT-394 COMPONENT-395
COMPONENT-396 COMPONENT-397 COMPONENT-398 COMPONENT-399 COMPONENT-400 COMPONENT-401 COMPONENT-402
COMPONENT-403 COMPONENT-404 COMPONENT-405 COMPONENT-406 COMPONENT-407 COMPONENT-408 COMPONENT-409
COMPONENT-410 COMPONENT-411 COMPONENT-412 COMPONENT-413 COMPONENT-414 COMPONENT-415 COMPONENT-416
COMPONENT-417 COMPONENT-418 COMPONENT-419 COMPONENT-420 COMPONENT-421 COMPONENT-422 COMPONENT-423
COMPONENT-424 COMPONENT-425 COMPONENT-426 COMPONENT-427 COMPONENT-428 COMPONENT-429 COMPONENT-430
COMPONENT-431 COMPONENT-432 COMPONENT-433 COMPONENT-434 COMPONENT-435 COMPONENT-436 COMPONENT-437
COMPONENT-438 COMPONENT-439 COMPONENT-440 COMPONENT-441 COMPONENT-442 COMPONENT-443 COMPONENT-444
COMPONENT-445 COMPONENT-446 COMPONENT-447 COMPONENT-448 COMPONENT-449 COMPONENT-450 COMPONENT-451
COMPONENT-452 COMPONENT-453 COMPONENT-454 COMPONENT-455 COMPONENT-456 COMPONENT-457 COMPONENT-458
COMPONENT-459 COMPONENT-460 COMPONENT-461 COMPONENT-462 COMPONENT-463 COMPONENT-464 COMPONENT-465
COMPONENT-466 COMPONENT-467 COMPONENT-468 COMPONENT-469 COMPONENT-470 COMPONENT-471 COMPONENT-472
COMPONENT-473 COMPONENT-474 COMPONENT-475 COMPONENT-476 COMPONENT-477 COMPONENT-478 COMPONENT-479
COMPONENT-480 COMPONENT-481 COMPONENT-482 COMPONENT-483 COMPONENT-484 COMPONENT-485 COMPONENT-486
COMPONENT-487 COMPONENT-488 COMPONENT-489 COMPONENT-490 COMPONENT-491 COMPONENT-492 COMPONENT-493
COMPONENT-494 COMPONENT-495 COMPONENT-496 COMPONENT-497 COMPONENT-498 COMPONENT-499 COMPONENT-500
COMPONENT-501 COMPONENT-502 COMPONENT-503 COMPONENT-504 COMPONENT-505 COMPONENT-506 COMPONENT-507
COMPONENT-508 COMPONENT-509 COMPONENT-510 COMPONENT-511 COMPONENT-512 COMPONENT-513 COMPONENT-514
COMPONENT-515 COMPONENT-516 COMPONENT-517 COMPONENT-518 COMPONENT-519 COMPONENT-520 COMPONENT-521
COMPONENT-522 COMPONENT-523 COMPONENT-524 COMPONENT-525 COMPONENT-526 COMPONENT-527 COMPONENT-528
COMPONENT-529 COMPONENT-530 COMPONENT-531 COMPONENT-532 COMPONENT-533 COMPONENT-534 COMPONENT-535
COMPONENT-536 COMPONENT-537 COMPONENT-538 COMPONENT-539 COMPONENT-540 COMPONENT-541 COMPONENT-542
COMPONENT-543 COMPONENT-544 COMPONENT-545 COMPONENT-546 COMPONENT-547 COMPONENT-548 COMPONENT-549
COMPONENT-550 COMPONENT-551 COMPONENT-552 COMPONENT-553 COMPONENT-554 COMPONENT-555 COMPONENT-556
COMPONENT-557 COMPONENT-558 COMPONENT-559 COMPONENT-560 COMPONENT-561 COMPONENT-562 COMPONENT-563
COMPONENT-564 COMPONENT-565 COMPONENT-566 COMPONENT-567 COMPONENT-568 COMPONENT-569 COMPONENT-570
COMPONENT-571 COMPONENT-572 COMPONENT-573 COMPONENT-574 COMPONENT-575 COMPONENT-576 COMPONENT-577
COMPONENT-578 COMPONENT-579 COMPONENT-580 COMPONENT-581 COMPONENT-582 COMPONENT-583 COMPONENT-584
COMPONENT-585 COMPONENT-586 COMPONENT-587 COMPONENT-588 COMPONENT-589 COMPONENT-590 COMPONENT-591
COMPONENT-592 COMPONENT-593 COMPONENT-594 COMPONENT-595 COMPONENT-596 COMPONENT-597 COMPONENT-598
COMPONENT-599 COMPONENT-600 COMPONENT-601 COMPONENT-602 COMPONENT-603 COMPONENT-604 COMPONENT-605
COMPONENT-606 COMPONENT-607 COMPONENT-608 COMPONENT-609 COMPONENT-610 COMPONENT-611 COMPONENT-612
COMPONENT-613 COMPONENT-614 COMPONENT-615 COMPONENT-616 COMPONENT-617 COMPONENT-618 COMPONENT-619
COMPONENT-620 COMPONENT-621 COMPONENT-622 COMPONENT-623 COMPONENT-624 COMPONENT-625 COMPONENT-626
COMPONENT-627 COMPONENT-628 COMPONENT-629 COMPONENT-630 COMPONENT-631 COMPONENT-632 COMPONENT-633
COMPONENT-634 COMPONENT-635 COMPONENT-636 COMPONENT-637 COMPONENT-638 COMPONENT-639 COMPONENT-640
COMPONENT-641 COMPONENT-642 COMPONENT-643 COMPONENT-644 COMPONENT-645 COMPONENT-646 COMPONENT-647
COMPONENT-648 COMPONENT-649 COMPONENT-650 COMPONENT-651 COMPONENT-652 COMPONENT-653 COMPONENT-654
COMPONENT-655 COMPONENT-656 COMPONENT-657 COMPONENT-658 COMPONENT-659 COMPONENT-660 COMPONENT-661
COMPONENT-662 COMPONENT-663 COMPONENT-664 COMPONENT-665 COMPONENT-666 COMPONENT-667 COMPONENT-668
COMPONENT-669 COMPONENT-670 COMPONENT-671 COMPONENT-672 COMPONENT-673 COMPONENT-674 COMPONENT-675
COMPONENT-676 COMPONENT-677 COMPONENT-678 COMPONENT-679 COMPONENT-680 COMPONENT-681 COMPONENT-682
COMPONENT-683 COMPONENT-684 COMPONENT-685 COMPONENT-686 COMPONENT-687 COMPONENT-688 COMPONENT-689
COMPONENT-690 COMPONENT-691 COMPONENT-692 COMPONENT-693 COMPONENT-694 COMPONENT-695 COMPONENT-696
COMPONENT-697 COMPONENT-698 COMPONENT-699 COMPONENT-700 COMPONENT-701 COMPONENT-702 COMPONENT-703
COMPONENT-704 COMPONENT-705 COMPONENT-706 COMPONENT-707 COMPONENT-708 COMPONENT-709 COMPONENT-710
COMPONENT-711 COMPONENT-712 COMPONENT-713 COMPONENT-714 COMPONENT-715 COMPONENT-716 COMPONENT-717
COMPONENT-718 COMPONENT-719 COMPONENT-720 COMPONENT-721 COMPONENT-722 COMPONENT-723 COMPONENT-724
COMPONENT-725 COMPONENT-726 COMPONENT-727 COMPONENT-728 COMPONENT-729 COMPONENT-730 COMPONENT-731
COMPONENT-732 COMPONENT-733 COMPONENT-734 COMPONENT-735 COMPONENT-736 COMPONENT-737 COMPONENT-738
COMPONENT-739 COMPONENT-740 COMPONENT-741 COMPONENT-742 COMPONENT-743 COMPONENT-744 COMPONENT-745
COMPONENT-746 COMPONENT-747 COMPONENT-748 COMPONENT-749 COMPONENT-750 COMPONENT-751 COMPONENT-752
COMPONENT-753 COMPONENT-754 COMPONENT-755 COMPONENT-756 COMPONENT-757 COMPONENT-758 COMPONENT-759
COMPONENT-760 COMPONENT-761 COMPONENT-762 COMPONENT-763 COMPONENT-764 COMPONENT-765 COMPONENT-766
COMPONENT-767 COMPONENT-768 ITERATION(MARK)) TAPE(CARTRIDGE DRIVE) TAURUS TAXI
TEACUP(WITHOUT(HANDLE)) TEAPOT TEAR-OFF(CALENDAR) TEARDROP-BARBED(RIGHTWARDS(ARROW))
TEARDROP-SPOKED(ASTERISK) TEDDY(BEAR) TELEPHONE(LOCATION(SIGN) ON(TOP(OF(MODEM)))
RECEIVER.(WITH(PAGE)) RECORDER SIGN) TELESCOPE TELEVISION TELUGU(AI(LENGTH(MARK)) DIGIT(EIGHT FIVE
FOUR NINE ONE SEVEN SIX THREE TWO ZERO) FRACTION(DIGIT(ONE(FOR(EVEN(POWERS(OF(FOUR)))
ODD(POWERS(OF(FOUR))))) THREE(FOR(EVEN(POWERS(OF(FOUR))) ODD(POWERS(OF(FOUR)))))
TWO(FOR(EVEN(POWERS(OF(FOUR))) ODD(POWERS(OF(FOUR))))) ZERO(FOR(ODD(POWERS(OF(FOUR)))))))
LENGTH(MARK) LETTER(A AA AI AU BA BHA CA CHA DA DDA DDHA DHA DZA E EE GA GHA HA I II JA JHA KA KHA
LA LLA LLLA MA NA NAKAARA(POLLU) NGA NNA NYA O OO PA PHA RA RRA RRRA SA SHA SSA TA THA TSA TTA TTHA
U UU VA VOCALIC(L LL R RR) YA) SIGN(ANUSVARA AVAGRAHA CANDRABINDU COMBINING(ANUSVARA(ABOVE)
CANDRABINDU(ABOVE)) NUKTA SIDDHAM TUUMU VIRAMA VISARGA) VOWEL(SIGN(AA AI AU E EE I II O OO U UU
VOCALIC(L LL R RR)))) TENGE(SIGN) TENNIS(RACQUET(AND(BALL))) TENT TEST(TUBE)
TETRAGRAM(FOR(ACCUMULATION ADVANCE AGGRAVATION ASCENT BARRIER BOLD(RESOLUTION) BRANCHING(OUT)
CENTRE CHANGE CLOSED(MOUTH) CLOSENESS CLOSURE COMPLETION COMPLIANCE CONSTANCY CONTACT CONTENTION
CONTRARIETY DARKENING DECISIVENESS DEFECTIVENESS(OR(DISTORTION)) DEPARTURE DIFFICULTIES
DIMINISHMENT DIMMING DIVERGENCE DOUBT DUTIES EASE EMBELLISHMENT ENCOUNTERS ENDEAVOUR ENLARGEMENT
ETERNITY EXHAUSTION FAILURE FLIGHT FOLLOWING FOSTERING FULL(CIRCLE) FULLNESS GATHERING.(IN)
GOING(TO(MEET)) GREATNESS GUARDEDNESS HARDNESS HOLDING(BACK) INCREASE INNER JOY KEEPING(SMALL)
KINSHIP LABOURING LAW(OR(MODEL)) LEGION MASSING MEASURE MIRED ON(THE(VERGE)) OPPOSITION PACKING
PATTERN PENETRATION PURITY REACH RELEASE RESIDENCE RESISTANCE RESPONSE RITUAL SEVERANCE SINKING
STOPPAGE STOVE STRENGTH UNITY VASTNESS(OR(WASTING)) WAITING WATCH YOUTHFULNESS)) THAANA(AABAAFILI
ABAFILI EBEFILI EEBEEFILI EYBEYFILI IBIFILI LETTER(AINU ALIFU BAA CHAVIYANI DAADHU DAVIYANI DHAALU
FAAFU GAAFU GHAINU GNAVIYANI HAA HHAA JAVIYANI KAAFU KHAA LAAMU LHAVIYANI MEEMU NAA NOONU PAVIYANI
QAAFU RAA SAADHU SEENU SHAVIYANI SHEENU TAVIYANI THAA THAALU TO TTAA VAAVU WAAVU YAA ZAA ZAVIYANI
ZO) OABOAFILI OBOFILI OOBOOFILI SUKUN UBUFILI) THAI(CHARACTER(ANGKHANKHU BO(BAIMAI) CHO(CHAN CHANG
CHING CHOE) DO(CHADA DEK) FO(FA FAN) FONGMAN HO(HIP NOKHUK) KHO(KHAI KHON KHUAT KHWAI RAKHANG)
KHOMUT KO(KAI) LAKKHANGYAO LO(CHULA LING) LU MAI(CHATTAWA EK HAN-AKAT THO TRI) MAITAIKHU MAIYAMOK
MO(MA) NGO(NGU) NIKHAHIT NO(NEN NU) O(ANG) PAIYANNOI PHINTHU PHO(PHAN PHUNG SAMPHAO) PO(PLA)
RO(RUA) RU SARA(A AA AE AI(MAIMALAI MAIMUAN) AM E I II O U UE UEE UU) SO(RUSI SALA SO SUA)
THANTHAKHAT THO(NANGMONTHO PHUTHAO THAHAN THAN THONG THUNG) TO(PATAK TAO) WO(WAEN) YAMAKKAN YO(YAK
YING)) CURRENCY(SYMBOL(BAHT)) DIGIT(EIGHT FIVE FOUR NINE ONE SEVEN SIX THREE TWO ZERO))
THERE(DOES(NOT(EXIST)) EXISTS) THEREFORE THERMODYNAMIC THERMOMETER THIN(GREEK(CROSS) SALTIRE SPACE)
THINKING(FACE) THIRD(PLACE(MEDAL)) THONG(SANDAL) THOUGHT(BALLOON) THREE(BUTTON(MOUSE)
CONSECUTIVE(EQUALS(SIGNS)) DIMENSIONAL(ANGLE) DOT(PUNCTUATION) LEFTWARDS(ARROWS)
LINES(CONVERGING(LEFT RIGHT)) NETWORKED(COMPUTERS) POINTED(BLACK(STAR)) RAYS(ABOVE BELOW LEFT
RIGHT) RIGHTWARDS(ARROWS) SPEECH(BUBBLES)) THREE-D(BOTTOM-LIGHTED(RIGHTWARDS(ARROWHEAD))
LEFT-LIGHTED(DOWNWARDS(EQUILATERAL(ARROWHEAD))) RIGHT-LIGHTED(UPWARDS(EQUILATERAL(ARROWHEAD)))
TOP-LIGHTED(LEFTWARDS(EQUILATERAL(ARROWHEAD)) RIGHTWARDS(ARROWHEAD EQUILATERAL(ARROWHEAD))))
THREE-EM(DASH) THREE-PER-EM(SPACE) THUMBS(DOWN(SIGN) UP(SIGN)) THUNDER(CLOUD(AND(RAIN)))
THUNDERSTORM TIBETAN(ASTROLOGICAL(SIGN(-KHYUD(PA) SDONG(TSHUGS) SGRA(GCAN(-CHAR(RTAGS)))))
CANTILLATION(SIGN(CANG(TE-U) HEAVY(BEAT) LIGHT(BEAT) SBUB(-CHAL))) DIGIT(EIGHT FIVE FOUR HALF(EIGHT
FIVE FOUR NINE ONE SEVEN SIX THREE TWO ZERO) NINE ONE SEVEN SIX THREE TWO ZERO)
KU(RU(KHA.(BZHI(MIG(CAN))))) LETTER(-A A BA BHA CA CHA DA DDA DDHA DHA DZA DZHA FIXED-FORM(RA) GA
GHA HA JA KA KHA KKA KSSA LA MA NA NGA NNA NYA PA PHA RA RRA SA SHA SSA TA THA TSA TSHA TTA TTHA WA
YA ZA ZHA) LOGOTYPE(SIGN(CHAD(RTAGS) LHAG(RTAGS))) MARK(ANG(KHANG(GYAS GYON))
BKA-(SHOG(GI(MGO(RGYAN)) YIG(MGO))) BSDUS(RTAGS) BSKA-(SHOG(GI(MGO(RGYAN)))) BSKUR(YIG(MGO))
CARET(-DZUD(RTAGS(BZHI(MIG(CAN)) ME(LONG(CAN)))) YIG(MGO(PHUR(SHAD(MA))))) CHE(MGO)
CLOSING(BRDA(RNYING(YIG(MGO(SGAB(MA))))) YIG(MGO(SGAB(MA)))) DELIMITER(TSHEG(BSTAR)) GTER(TSHEG
YIG(MGO(-UM(GTER(TSHEG(MA)) RNAM(BCAD(MA))) TRUNCATED(A)))) GUG(RTAGS(GYAS GYON)) HALANTA
INITIAL(BRDA(RNYING(YIG(MGO(MDUN(MA))))) YIG(MGO(MDUN(MA)))) INTERSYLLABIC(TSHEG)
LEADING(MCHAN(RTAGS)) MNYAM(YIG(GI(MGO(RGYAN)))) NGAS(BZUNG(NYI(ZLA) SGOR(RTAGS))) NYIS(SHAD
TSHEG.(SHAD)) PALUTA RGYA(GRAM(SHAD)) RIN(CHEN(SPUNGS(SHAD))) SBRUL(SHAD) SHAD
TRAILING(MCHAN(RTAGS)) TSA(-PHRU) TSHEG(SHAD) YIG(MGO(TSHEG(SHAD(MA))))) SIGN(GRU(CAN(RGYINGS)
MED(RGYINGS)) INVERTED(MCHU(CAN)) LCE(TSA(CAN)) LCI(RTAGS) MAR(TSHES) MCHU(CAN) NYI(ZLA(NAA(DA)))
RDEL(DKAR(GCIG GNYIS GSUM RDEL(NAG)) NAG(GCIG GNYIS GSUM RDEL(DKAR))) RJES(SU(NGA(RO))) RNAM(BCAD)
SNA(LDAN) YANG(RTAGS) YAR(TSHES)) SUBJOINED(LETTER(-A A BA BHA CA CHA DA DDA DDHA DHA DZA DZHA
FIXED-FORM(RA WA YA) GA GHA HA JA KA KHA KSSA LA MA NA NGA NNA NYA PA PHA RA SA SHA SSA TA THA TSA
TSHA TTA TTHA WA YA ZA ZHA) SIGN(INVERTED(MCHU(CAN)) LCE(TSA(CAN)) MCHU(CAN))) SYLLABLE(OM)
SYMBOL(DRIL(BU) NOR(BU.(BZHI(-KHYIL) GSUM(-KHYIL) NYIS(-KHYIL))) PADMA(GDAN) PHUR(PA)
RDO(RJE.(RGYA(GRAM)))) VOWEL(SIGN(AA E EE I II O OO REVERSED(I II) U UU VOCALIC(L LL R RR))))
TICKET TIE(OVER(INFINITY)) TIFINAGH(CONSONANT(JOINER) LETTER(AHAGGAR(YAZH) AYER(YAGH)
BERBER(ACADEMY(YAH YAJ)) TAWELLEMET(YAZ) TUAREG(YAGH YAGN YAH YAK YAKH YANG YAQ YAZH) YA YAA YAB
YABH YACH YAD YADD YADDH YADH YAF YAG YAGH YAGHH YAH YAHH YAJ YAK YAKH YAKHH YAL YAM YAN YAP YAQ
YAR YARR YAS YASH YASS YAT YATH YATT YAV YAW YAY YAZ YAZH YAZZ YE YEY YI YO YU)
MODIFIER(LETTER(LABIALIZATION(MARK))) SEPARATOR(MARK)) TIGER.(FACE) TIGHT(TRIFOLIATE(SNOWFLAKE))
TILDE.(OPERATOR.(ABOVE(LEFTWARDS(ARROW) RIGHTWARDS(ARROW)) WITH(DOT(ABOVE) RISING(DOTS)))
WITH(DOT(ABOVE BELOW) RING(ABOVE))) TIMER(CLOCK) TIMES(WITH(LEFT(HALF(BLACK)) RIGHT(HALF(BLACK))))
TINY.(TWO(DOTS(OVER(ONE(DOT(PUNCTUATION)))))) TIRED(FACE) TIRHUTA(ABBREVIATION(SIGN) ANJI
DIGIT(EIGHT FIVE FOUR NINE ONE SEVEN SIX THREE TWO ZERO) GVANG LETTER(A AA AI AU BA BHA CA CHA DA
DDA DDHA DHA E GA GHA HA I II JA JHA KA KHA LA MA NA NGA NNA NYA O PA PHA RA SA SHA SSA TA THA TTA
TTHA U UU VA VOCALIC(L LL R RR) YA) OM SIGN(ANUSVARA AVAGRAHA CANDRABINDU NUKTA VIRAMA VISARGA)
VOWEL(SIGN(AA AI AU E I II O SHORT(E O) U UU VOCALIC(L LL R RR)))) TIRONIAN(SIGN(CAPITAL(ET) ET))
TOILET TOKYO(TOWER) TOMATO TONGUE TOOLBOX TOOTH TOOTHBRUSH
TOP(ARC(ANTICLOCKWISE(ARROW.(WITH(PLUS))) CLOCKWISE(ARROW(WITH(MINUS)))) CURLY(BRACKET)
HALF(BLACK(CIRCLE) INTEGRAL LEFT(PARENTHESIS) RIGHT(PARENTHESIS) SECTION(SIGN)) HAT LEFT(CORNER
CROP HALF(BRACKET)) PARENTHESIS RIGHT(CORNER CROP HALF(BRACKET)) SQUARE(BRACKET)
TORTOISE(SHELL(BRACKET)) WITH(UPWARDS(ARROW(ABOVE))))
TORTOISE(SHELL(BRACKETED(CJK(UNIFIED(IDEOGRAPH-4E09 IDEOGRAPH-4E8C IDEOGRAPH-52DD IDEOGRAPH-5B89
IDEOGRAPH-6253 IDEOGRAPH-6557 IDEOGRAPH-672C IDEOGRAPH-70B9 IDEOGRAPH-76D7))
LATIN(CAPITAL(LETTER(S)))))) TOTAL(RUNOUT) TOTO(LETTER(A AE BA BREATHY(AE E EO I IU) CHA DA E EO GA
HA I IU JA KA LA MA NA NGA O PA RA SA TA U WA YA) SIGN(RISING(TONE))) TRACKBALL TRACTOR
TRADE(MARK(SIGN)) TRAIN TRAM.(CAR) TRANSPLUTO TRANSVERSAL(INTERSECTION) TRIANGLE(WITH(DOT(ABOVE)
ROUNDED(CORNERS) SERIFS(AT(BOTTOM)) UNDERBAR)) TRIANGLE-HEADED(RIGHTWARDS(ARROW)) TRIANGULAR(BULLET
FLAG(ON(POST)) RULER) TRICOLON TRIDENT(EMBLEM) TRIGRAM(FOR(EARTH FIRE HEAVEN LAKE MOUNTAIN THUNDER
WATER WIND)) TRIPLE(COLON(OPERATOR) DAGGER HORIZONTAL(BAR(WITH(DOUBLE(VERTICAL(STROKE))
TRIPLE(VERTICAL(STROKE))))) INTEGRAL NESTED(GREATER-THAN LESS-THAN) PLUS PRIME
SOLIDUS(BINARY(RELATION)) TILDE VERTICAL(BAR(BINARY(RELATION) DELIMITER RIGHT(TURNSTILE)
WITH(HORIZONTAL(STROKE))))) TROLL TROLLEYBUS TROPHY TROPICAL(DRINK FISH) TRUE.(LIGHT(MOON(ARTA)))
TRUMPET TUGRIK(SIGN) TULIP TUMBLER(GLASS) TURKEY TURKISH(LIRA(SIGN)) TURNED(AMPERSAND ANGLE
BLACK(PENTAGON SHOGI(PIECE)) CAPITAL(F) COMMA DAGGER DIGIT(THREE TWO) GREEK(SMALL(LETTER(IOTA)))
NORTH(EAST(POINTING(LEAF)) WEST(POINTING(LEAF))) NOT(SIGN) OK(HAND(SIGN)) SANS-SERIF(CAPITAL(G L
Y)) SEMICOLON SMALL(F) SOUTH(EAST(POINTING(LEAF)) WEST(POINTING(LEAF))) WHITE(SHOGI(PIECE))) TURTLE
TWELVE(POINTED(BLACK(STAR))) TWISTED(RIGHTWARDS(ARROWS)) TWO(ASTERISKS(ALIGNED(VERTICALLY))
BUTTON(MOUSE) CONSECUTIVE(EQUALS(SIGNS)) DOT(LEADER PUNCTUATION) DOTS(OVER(ONE(DOT(PUNCTUATION))))
HEARTS INTERSECTING(LOGICAL(AND OR)) JOINED(SQUARES) LOGICAL(AND(OPERATOR) OR(OPERATOR))
MEN(HOLDING(HANDS)) SPEECH(BUBBLES) WOMEN(HOLDING(HANDS))) TWO-EM(DASH) UGARITIC(LETTER(AIN ALPA
BETA DELTA DHAL GAMLA GHAIN HO HOTA I KAF KHA LAMDA MEM NUN PU QOPA RASHA SADE SAMKA SHIN SSU TET
THANNA TO U WO YOD ZETA ZU) WORD(DIVIDER)) UMBRELLA.(ON(GROUND) WITH(RAIN(DROPS))) UNAMUSED(FACE)
UNCERTAINTY(SIGN) UNDERTIE UNDO(SYMBOL) UNICORN(FACE) UNION.(ABOVE(BAR(ABOVE(INTERSECTION))
INTERSECTION) BESIDE(AND(JOINED(WITH(UNION)))) WITH(LOGICAL(OR) MINUS(SIGN) OVERBAR))
UNIT(SEPARATOR) UNITED(SYMBOL) UNIVERSAL(RECYCLING(SYMBOL)) UNMARRIED(PARTNERSHIP(SYMBOL))
UP(ARROW(THROUGH(CIRCLE)) ARROWHEAD.(BETWEEN(TWO(HORIZONTAL(BARS))) IN(A(RECTANGLE(BOX))))
BARB(LEFT(DOWN(BARB(LEFT(HARPOON) RIGHT(HARPOON)))) RIGHT(DOWN(BARB(LEFT(HARPOON)
RIGHT(HARPOON))))) DOWN(ARROW.(WITH(BASE)) BLACK(ARROW) DOUBLE(ARROW) SANS-SERIF(ARROW)
TRIANGLE-HEADED(ARROW) WHITE(ARROW)) FISH(TAIL) RIGHT(DIAGONAL(ELLIPSIS))
TACK.(WITH(CIRCLE(ABOVE)))) UP-POINTING(AIRPLANE MILITARY(AIRPLANE) RED(TRIANGLE) SMALL(AIRPLANE
RED(TRIANGLE)) TRIANGLE(WITH(LEFT(HALF(BLACK)) RIGHT(HALF(BLACK)))))
UPPER(AND(LEFT(AND(LOWER(TRIANGULAR(THREE(QUARTERS(BLOCK)))))) LOWER(ONE(EIGHTH(BLOCK))
TRIANGULAR(HALF(BLOCK))) RIGHT(AND(LOWER(TRIANGULAR(THREE(QUARTERS(BLOCK))))))) BLADE(SCISSORS)
FIVE(EIGHTHS(BLOCK)) HALF(BLOCK.(AND(LOWER(HALF(INVERSE(MEDIUM(SHADE)))))) CIRCLE
INVERSE(MEDIUM(SHADE(AND(LOWER(HALF(BLOCK))))) WHITE(CIRCLE)) MEDIUM(SHADE))
LEFT(BLOCK(DIAGONAL(LOWER(CENTRE(TO(LOWER(MIDDLE(RIGHT)) UPPER(MIDDLE(RIGHT) RIGHT)))
LEFT(TO(LOWER(MIDDLE(RIGHT)) UPPER(CENTRE MIDDLE(RIGHT)))) MIDDLE(LEFT(TO(UPPER(CENTRE
MIDDLE(RIGHT) RIGHT))))) UPPER(MIDDLE(LEFT(TO(UPPER(CENTRE RIGHT))))))) CORNER(WITH(DOT))
OR(LOWER(RIGHT(CURLY(BRACKET(SECTION))))) QUADRANT(CIRCULAR(ARC)) TO(LOWER(RIGHT(FILL))) TRIANGLE
TRIANGULAR(MEDIUM(SHADE))) ONE(EIGHTH(BLOCK) QUARTER(BLOCK))
RIGHT(BLOCK(DIAGONAL(LOWER(MIDDLE(LEFT(TO(LOWER(CENTRE RIGHT)))))
UPPER(CENTRE(TO(LOWER(MIDDLE(RIGHT) RIGHT) UPPER(MIDDLE(RIGHT)))) LEFT(TO(LOWER(CENTRE
MIDDLE(RIGHT)) UPPER(MIDDLE(RIGHT)))) MIDDLE(LEFT(TO(LOWER(CENTRE MIDDLE(RIGHT) RIGHT)))))))
DROP-SHADOWED(WHITE(SQUARE)) OR(LOWER(LEFT(CURLY(BRACKET(SECTION))))) PENCIL
QUADRANT(CIRCULAR(ARC)) SHADOWED(WHITE(CIRCLE SQUARE)) TO(LOWER(LEFT(FILL))) TRIANGLE
TRIANGULAR(MEDIUM(SHADE))) SEVEN(EIGHTHS(BLOCK)) THREE(EIGHTHS(BLOCK) QUARTERS(BLOCK))
TRIANGULAR(ONE(QUARTER(BLOCK)))) UPSIDE-DOWN(FACE) UPWARDS(ANCORA
ARROW.(AND(RIGHT(ONE(EIGHTH(BLOCK)))) FROM(BAR) LEFTWARDS(OF(DOWNWARDS(ARROW))) TO(BAR)
WITH(DOUBLE(STROKE) EQUILATERAL(ARROWHEAD) HORIZONTAL(STROKE) LARGE(TRIANGLE(ARROWHEAD))
MEDIUM(TRIANGLE(ARROWHEAD)) NOTCHED(TAIL) SMALL(EQUILATERAL(ARROWHEAD) TRIANGLE(ARROWHEAD))
TIP(LEFTWARDS RIGHTWARDS))) BLACK(ARROW CIRCLED(WHITE(ARROW))) COMPRESSED(ARROW) DASHED(ARROW)
DOUBLE(ARROW) FINGER-POST(ARROW)
HARPOON(WITH(BARB(LEFT(BESIDE(DOWNWARDS(HARPOON(WITH(BARB(RIGHT))))
UPWARDS(HARPOON(WITH(BARB(RIGHT))))) FROM(BAR) TO(BAR)) LEFTWARDS RIGHT(FROM(BAR) TO(BAR))
RIGHTWARDS))) HEAVY(ARROW COMPRESSED(ARROW)) PAIRED(ARROWS) QUADRUPLE(ARROW) ROCKET
SANS-SERIF(ARROW) SQUARED(ARROW) TRIANGLE(ARROWHEAD)
TRIANGLE-HEADED(ARROW.(LEFTWARDS(OF(DOWNWARDS(TRIANGLE-HEADED(ARROW)))) TO(BAR) WITH(BOLD(SHAFT)
DOUBLE(HORIZONTAL(STROKE)) HEAVY(SHAFT) LONG(TIP(LEFTWARDS RIGHTWARDS)) MEDIUM(SHAFT) NARROW(SHAFT)
VERY(HEAVY(SHAFT)))) DASHED(ARROW) PAIRED(ARROWS)) TRIPLE(ARROW) TWO(HEADED(ARROW))
TWO-HEADED(ARROW(FROM(SMALL(CIRCLE)) WITH(TRIANGLE(ARROWHEADS))))
WHITE(ARROW.(FROM(BAR.(WITH(HORIZONTAL(BAR)))) ON(PEDESTAL.(WITH(HORIZONTAL(BAR) VERTICAL(BAR))))
WITHIN(TRIANGLE(ARROWHEAD))) DOUBLE(ARROW.(ON(PEDESTAL))))) URANUS US VAI(COMMA DIGIT(EIGHT FIVE
FOUR NINE ONE SEVEN SIX THREE TWO ZERO) FULL(STOP) QUESTION(MARK) SYLLABLE(A AN BA BE BEE BHA BHE
BHEE BHI BHO BHOO BHU BI BO BOO BU CA CE CEE CI CO COO CU DA DE DEE DHA DHE DHEE DHHA DHHE DHHEE
DHHI DHHO DHHOO DHHU DHI DHO DHOO DHU DI DO DOO DU E EE EEN EN FA FE FEE FI FO FOO FU GA GBA GBE
GBEE GBEN GBI GBO GBON GBOO GBU GE GEE GEN GI GO GOO GU HA HAN HE HEE HEN HI HIN HO HON HOO HU HUN
I IN JA JE JEE JI JO JOO JU KA KAN KE KEE KI KO KOO KPA KPAN KPE KPEE KPEN KPI KPO KPOO KPU KU LA
LE LEE LENGTHENER LI LO LOO LU MA MBA MBE MBEE MBI MBO MBOO MBU ME MEE MGBA MGBE MGBEE MGBI MGBO
MGBOO MGBU MI MO MOO MU NA NDA NDE NDEE NDI NDO NDOLE(DO FA KA MA SOO) NDOO NDU NE NEE NG NGAN NGEN
NGGA NGGE NGGEE NGGEN NGGI NGGO NGGOO NGGU NGON NI NJA NJE NJEE NJI NJO NJOO NJU NO NOO NU NYA NYE
NYEE NYI NYO NYOO NYU O ON OO OON PA PE PEE PI PO POO PU RA RE REE RI RO ROO RU SA SE SEE SHA SHE
SHEE SHI SHO SHOO SHU SI SO SOO SU TA TE TEE THA THE THEE THI THO THOO THU TI TO TOO TU U UN VA VE
VEE VI VO VOO VU WA WAN WE WEE WEEN WEN WI WIN WO WON WOO WOON WU WUN YA YE YEE YI YO YOO YU ZA ZE
ZEE ZHA ZHE ZHEE ZHI ZHO ZHOO ZHU ZI ZO ZOO ZU) SYMBOL(BANG DANG DO-O DOONG FAA FEENG JONG KEENG
KUNG NII TAA TING TONG)) VAMPIRE VARIATION(SELECTOR-1 SELECTOR-10 SELECTOR-100 SELECTOR-101
SELECTOR-102 SELECTOR-103 SELECTOR-104 SELECTOR-105 SELECTOR-106 SELECTOR-107 SELECTOR-108
SELECTOR-109 SELECTOR-11 SELECTOR-110 SELECTOR-111 SELECTOR-112 SELECTOR-113 SELECTOR-114
SELECTOR-115 SELECTOR-116 SELECTOR-117 SELECTOR-118 SELECTOR-119 SELECTOR-12 SELECTOR-120
SELECTOR-121 SELECTOR-122 SELECTOR-123 SELECTOR-124 SELECTOR-125 SELECTOR-126 SELECTOR-127
SELECTOR-128 SELECTOR-129 SELECTOR-13 SELECTOR-130 SELECTOR-131 SELECTOR-132 SELECTOR-133
SELECTOR-134 SELECTOR-135 SELECTOR-136 SELECTOR-137 SELECTOR-138 SELECTOR-139 SELECTOR-14
SELECTOR-140 SELECTOR-141 SELECTOR-142 SELECTOR-143 SELECTOR-144 SELECTOR-145 SELECTOR-146
SELECTOR-147 SELECTOR-148 SELECTOR-149 SELECTOR-15 SELECTOR-150 SELECTOR-151 SELECTOR-152
SELECTOR-153 SELECTOR-154 SELECTOR-155 SELECTOR-156 SELECTOR-157 SELECTOR-158 SELECTOR-159
SELECTOR-16 SELECTOR-160 SELECTOR-161 SELECTOR-162 SELECTOR-163 SELECTOR-164 SELECTOR-165
SELECTOR-166 SELECTOR-167 SELECTOR-168 SELECTOR-169 SELECTOR-17 SELECTOR-170 SELECTOR-171
SELECTOR-172 SELECTOR-173 SELECTOR-174 SELECTOR-175 SELECTOR-176 SELECTOR-177 SELECTOR-178
SELECTOR-179 SELECTOR-18 SELECTOR-180 SELECTOR-181 SELECTOR-182 SELECTOR-183 SELECTOR-184
SELECTOR-185 SELECTOR-186 SELECTOR-187 SELECTOR-188 SELECTOR-189 SELECTOR-19 SELECTOR-190
SELECTOR-191 SELECTOR-192 SELECTOR-193 SELECTOR-194 SELECTOR-195 SELECTOR-196 SELECTOR-197
SELECTOR-198 SELECTOR-199 SELECTOR-2 SELECTOR-20 SELECTOR-200 SELECTOR-201 SELECTOR-202
SELECTOR-203 SELECTOR-204 SELECTOR-205 SELECTOR-206 SELECTOR-207 SELECTOR-208 SELECTOR-209
SELECTOR-21 SELECTOR-210 SELECTOR-211 SELECTOR-212 SELECTOR-213 SELECTOR-214 SELECTOR-215
SELECTOR-216 SELECTOR-217 SELECTOR-218 SELECTOR-219 SELECTOR-22 SELECTOR-220 SELECTOR-221
SELECTOR-222 SELECTOR-223 SELECTOR-224 SELECTOR-225 SELECTOR-226 SELECTOR-227 SELECTOR-228
SELECTOR-229 SELECTOR-23 SELECTOR-230 SELECTOR-231 SELECTOR-232 SELECTOR-233 SELECTOR-234
SELECTOR-235 SELECTOR-236 SELECTOR-237 SELECTOR-238 SELECTOR-239 SELECTOR-24 SELECTOR-240
SELECTOR-241 SELECTOR-242 SELECTOR-243 SELECTOR-244 SELECTOR-245 SELECTOR-246 SELECTOR-247
SELECTOR-248 SELECTOR-249 SELECTOR-25 SELECTOR-250 SELECTOR-251 SELECTOR-252 SELECTOR-253
SELECTOR-254 SELECTOR-255 SELECTOR-256 SELECTOR-26 SELECTOR-27 SELECTOR-28 SELECTOR-29 SELECTOR-3
SELECTOR-30 SELECTOR-31 SELECTOR-32 SELECTOR-33 SELECTOR-34 SELECTOR-35 SELECTOR-36 SELECTOR-37
SELECTOR-38 SELECTOR-39 SELECTOR-4 SELECTOR-40 SELECTOR-41 SELECTOR-42 SELECTOR-43 SELECTOR-44
SELECTOR-45 SELECTOR-46 SELECTOR-47 SELECTOR-48 SELECTOR-49 SELECTOR-5 SELECTOR-50 SELECTOR-51
SELECTOR-52 SELECTOR-53 SELECTOR-54 SELECTOR-55 SELECTOR-56 SELECTOR-57 SELECTOR-58 SELECTOR-59
SELECTOR-6 SELECTOR-60 SELECTOR-61 SELECTOR-62 SELECTOR-63 SELECTOR-64 SELECTOR-65 SELECTOR-66
SELECTOR-67 SELECTOR-68 SELECTOR-69 SELECTOR-7 SELECTOR-70 SELECTOR-71 SELECTOR-72 SELECTOR-73
SELECTOR-74 SELECTOR-75 SELECTOR-76 SELECTOR-77 SELECTOR-78 SELECTOR-79 SELECTOR-8 SELECTOR-80
SELECTOR-81 SELECTOR-82 SELECTOR-83 SELECTOR-84 SELECTOR-85 SELECTOR-86 SELECTOR-87 SELECTOR-88
SELECTOR-89 SELECTOR-9 SELECTOR-90 SELECTOR-91 SELECTOR-92 SELECTOR-93 SELECTOR-94 SELECTOR-95
SELECTOR-96 SELECTOR-97 SELECTOR-98 SELECTOR-99) VECTOR(OR(CROSS(PRODUCT)))
VEDIC(SIGN(ANUSVARA(ANTARGOMUKHA BAHIRGOMUKHA UBHAYATO(MUKHA) VAMAGOMUKHA.(WITH(TAIL)))
ARDHAVISARGA ATIKRAMA DOUBLE(ANUSVARA(ANTARGOMUKHA)) HEXIFORM(LONG(ANUSVARA)) JIHVAMULIYA
LONG(ANUSVARA) NIHSHVASA REVERSED(VISARGA(ANUDATTA UDATTA)) ROTATED(ARDHAVISARGA)
RTHANG(LONG(ANUSVARA)) TIRYAK UPADHMANIYA VISARGA(ANUDATTA.(WITH(TAIL)) SVARITA
UDATTA.(WITH(TAIL))) YAJURVEDIC(MIDLINE(SVARITA))) TONE(ATHARVAVEDIC(INDEPENDENT(SVARITA))
CANDRA(ABOVE BELOW) DOT(BELOW) DOUBLE(RING(ABOVE) SVARITA) KARSHANA KATHAKA(ANUDATTA) PRENKHA
RIGVEDIC(KASHMIRI(INDEPENDENT(SVARITA))) RING(ABOVE) SHARA THREE(DOTS(BELOW)) TRIPLE(SVARITA)
TWO(DOTS(BELOW)) YAJURVEDIC(AGGRAVATED(INDEPENDENT(SVARITA)) INDEPENDENT(SVARITA)
KATHAKA(INDEPENDENT(SVARITA.(SCHROEDER)))))) VERSICLE VERTICAL(BAR(BESIDE(RIGHT(TRIANGLE))
DOUBLE(LEFT(TURNSTILE)) TRIPLE(RIGHT(TURNSTILE)) WITH(HORIZONTAL(STROKE))) ELLIPSIS FOUR(DOTS)
IDEOGRAPHIC(ITERATION(MARK)) KANA(REPEAT(MARK.(LOWER(HALF) UPPER(HALF))
WITH(VOICED(SOUND(MARK.(UPPER(HALF))))))) LINE.(EXTENSION WITH(CIRCLE(ABOVE BELOW) MIDDLE(DOT)))
MALE(WITH(STROKE(SIGN))) ONE(EIGHTH(BLOCK-2 BLOCK-3 BLOCK-4 BLOCK-5 BLOCK-6 BLOCK-7)) SIX(DOTS)
TAB(KEY) TABULATION.(SET) TILDE TRAFFIC(LIGHT) ZIGZAG(LINE)) VERY(BOLD(GREEK(CROSS))
HEAVY(EIGHT(POINTED(BLACK(STAR)) SPOKED(ASTERISK)) FIVE(SPOKED(ASTERISK)) GREEK(CROSS)
REVERSE(SOLIDUS) SALTIRE SIX(SPOKED(ASTERISK)) SOLIDUS WHITE(CIRCLE SQUARE)) MUCH(GREATER-THAN
LESS-THAN)) VESTA VIBRATION(MODE) VICTORY(HAND) VIDEO(CAMERA GAME) VIDEOCASSETTE
VIETNAMESE(ALTERNATE(READING(MARK(CA NHAY)))) VIEWDATA(SQUARE) VIOLIN VIRGO
VITHKUQI(CAPITAL(LETTER(A BBE BE CE CHE DE DHE E EI FE GA HA HHA I IJE JE KA LA LLA ME NE NJE O PE
QA RE SE SHE TE THE U VE XE Y ZE)) SMALL(LETTER(A BBE BE CE CHE DE DHE E EI FE GA HA HHA I IJE JE
KA LA LLA ME NE NJE O PE QA RE SE SHE TE THE U VE XE Y ZE))) VOIDED(GREEK(CROSS)) VOLCANO
VOLLEYBALL VOLUME(INTEGRAL) VS1 VS10 VS100 VS101 VS102 VS103 VS104 VS105 VS106 VS107 VS108 VS109
VS11 VS110 VS111 VS112 VS113 VS114 VS115 VS116 VS117 VS118 VS119 VS12 VS120 VS121 VS122 VS123 VS124
VS125 VS126 VS127 VS128 VS129 VS13 VS130 VS131 VS132 VS133 VS134 VS135 VS136 VS137 VS138 VS139 VS14
VS140 VS141 VS142 VS143 VS144 VS145 VS146 VS147 VS148 VS149 VS15 VS150 VS151 VS152 VS153 VS154
VS155 VS156 VS157 VS158 VS159 VS16 VS160 VS161 VS162 VS163 VS164 VS165 VS166 VS167 VS168 VS169 VS17
VS170 VS171 VS172 VS173 VS174 VS175 VS176 VS177 VS178 VS179 VS18 VS180 VS181 VS182 VS183 VS184
VS185 VS186 VS187 VS188 VS189 VS19 VS190 VS191 VS192 VS193 VS194 VS195 VS196 VS197 VS198 VS199 VS2
VS20 VS200 VS201 VS202 VS203 VS204 VS205 VS206 VS207 VS208 VS209 VS21 VS210 VS211 VS212 VS213 VS214
VS215 VS216 VS217 VS218 VS219 VS22 VS220 VS221 VS222 VS223 VS224 VS225 VS226 VS227 VS228 VS229 VS23
VS230 VS231 VS232 VS233 VS234 VS235 VS236 VS237 VS238 VS239 VS24 VS240 VS241 VS242 VS243 VS244
VS245 VS246 VS247 VS248 VS249 VS25 VS250 VS251 VS252 VS253 VS254 VS255 VS256 VS26 VS27 VS28 VS29
VS3 VS30 VS31 VS32 VS33 VS34 VS35 VS36 VS37 VS38 VS39 VS4 VS40 VS41 VS42 VS43 VS44 VS45 VS46 VS47
VS48 VS49 VS5 VS50 VS51 VS52 VS53 VS54 VS55 VS56 VS57 VS58 VS59 VS6 VS60 VS61 VS62 VS63 VS64 VS65
VS66 VS67 VS68 VS69 VS7 VS70 VS71 VS72 VS73 VS74 VS75 VS76 VS77 VS78 VS79 VS8 VS80 VS81 VS82 VS83
VS84 VS85 VS86 VS87 VS88 VS89 VS9 VS90 VS91 VS92 VS93 VS94 VS95 VS96 VS97 VS98 VS99 VT VTS VULCANUS
VULGAR(FRACTION(FIVE(EIGHTHS SIXTHS) FOUR(FIFTHS) ONE(EIGHTH FIFTH HALF NINTH QUARTER SEVENTH SIXTH
TENTH THIRD) SEVEN(EIGHTHS) THREE(EIGHTHS FIFTHS QUARTERS) TWO(FIFTHS THIRDS) ZERO(THIRDS))) WAFFLE
WANCHO(DIGIT(EIGHT FIVE FOUR NINE ONE SEVEN SIX THREE TWO ZERO) LETTER(A AA AAN AANG ANG AU BA CA
DA E EN FA GA HA I ING JA KA KHA LA LLHA MA NA NGA NYA O ON ONG PA PHA RA SA SHA TA THA TRA TSA U
UEN VA WA YA YIH ZA) NGUN(SIGN) TONE(KOI KOINI TUP TUPNI)) WANING(CRESCENT(MOON(SYMBOL))
GIBBOUS(MOON(SYMBOL))) WARANG(CITI(CAPITAL(LETTER(A AM ANG AT BU DA E ENN ENY GA HAR HIYO HOLO HORR
II KO NGAA NUNG O ODD PU SII SSUU TTE UC UU VIYO WI YA YO YU YUJ)) DIGIT(EIGHT FIVE FOUR NINE ONE
SEVEN SIX THREE TWO ZERO) NUMBER(EIGHTY FIFTY FORTY NINETY SEVENTY SIXTY TEN THIRTY TWENTY) OM
SMALL(LETTER(A AM ANG AT BU DA E ENN ENY GA HAR HIYO HOLO HORR II KO NGAA NUNG O ODD PU SII SSUU
TTE UC UU VIYO WI YA YO YU YUJ)))) WARNING(SIGN) WASTEBASKET WATCH WATER(BUFFALO CLOSET POLO WAVE)
WATERMELON WAVE(ARROW(POINTING(DIRECTLY(LEFT RIGHT))) DASH) WAVING(BLACK(FLAG) HAND(SIGN)
WHITE(FLAG)) WAVY(DASH LINE LOW(LINE) OVERLINE) WAXING(CRESCENT(MOON(SYMBOL))
GIBBOUS(MOON(SYMBOL))) WEARY(CAT(FACE) FACE) WEDDING WEDGE-TAILED(RIGHTWARDS(ARROW))
WEIERSTRASS(ELLIPTIC(FUNCTION)) WEIGHT(LIFTER) WEST(SYRIAC(CROSS)) WHALE WHEEL.(OF(DHARMA))
WHEELCHAIR(SYMBOL) WHITE(ARROW(SHAFT(WIDTH(ONE TWO(THIRDS)))) BULLET
CHESS(BISHOP.(ROTATED(NINETY(DEGREES) TWO(HUNDRED(SEVENTY(DEGREES)))))
EQUIHOPPER.(ROTATED(NINETY(DEGREES))) KING.(ROTATED(NINETY(DEGREES)
TWO(HUNDRED(SEVENTY(DEGREES))))) KNIGHT.(ROTATED(FORTY-FIVE(DEGREES) NINETY(DEGREES)
ONE(HUNDRED(THIRTY-FIVE(DEGREES))) THREE(HUNDRED(FIFTEEN(DEGREES))) TWO(HUNDRED(SEVENTY(DEGREES)
TWENTY-FIVE(DEGREES))))) KNIGHT-BISHOP KNIGHT-QUEEN KNIGHT-ROOK PAWN.(ROTATED(NINETY(DEGREES)
TWO(HUNDRED(SEVENTY(DEGREES))))) QUEEN.(ROTATED(NINETY(DEGREES) TWO(HUNDRED(SEVENTY(DEGREES)))))
ROOK.(ROTATED(NINETY(DEGREES) TWO(HUNDRED(SEVENTY(DEGREES))))) TURNED(BISHOP KING KNIGHT PAWN QUEEN
ROOK)) CIRCLE.(CONTAINING(BLACK(SMALL(CIRCLE))) WITH(DOT(RIGHT) DOWN(ARROW) LOWER(LEFT(QUADRANT)
RIGHT(QUADRANT)) TWO(DOTS) UPPER(LEFT(QUADRANT) RIGHT(QUADRANT)))) CLUB(SUIT)
CONCAVE-SIDED(DIAMOND.(WITH(LEFTWARDS(TICK) RIGHTWARDS(TICK))))
DIAMOND.(CONTAINING(BLACK(MEDIUM(DIAMOND) SMALL(DIAMOND) VERY(SMALL(DIAMOND)))) IN(SQUARE) SUIT
WITH(CENTRED(DOT))) DOWN(POINTING(BACKHAND(INDEX) INDEX LEFT(HAND(INDEX))))
DOWN-POINTING(SMALL(TRIANGLE) TRIANGLE) DRAUGHTS(KING MAN) EXCLAMATION(MARK(ORNAMENT))
FLAG.(WITH(HORIZONTAL(MIDDLE(BLACK(STRIPE))))) FLORETTE FLOWER FOUR(POINTED(CUSP STAR))
FROWNING(FACE) HARD(SHELL(FLOPPY(DISK))) HEART.(SUIT) HEAVY(CHECK(MARK)
SALTIRE(WITH(ROUNDED(CORNERS)))) HEXAGON HORIZONTAL(ELLIPSE) HOURGLASS LARGE(SQUARE) LATIN(CROSS)
LEFT(LANE(MERGE) POINTING(BACKHAND(INDEX) INDEX)) LEFT-POINTING(POINTER SMALL(TRIANGLE) TRIANGLE)
LOZENGE(CONTAINING(BLACK(SMALL(LOZENGE)))) MEDIUM(DIAMOND LOZENGE SMALL(SQUARE) SQUARE STAR)
MOON(SELENA) NIB PARALLELOGRAM PENNANT PENTAGON QUESTION(MARK(ORNAMENT)) RECTANGLE
RIGHT(POINTING(BACKHAND(INDEX) INDEX)) RIGHT-POINTING(PENTAGON POINTER SMALL(TRIANGLE) TRIANGLE)
SCISSORS SESAME(DOT) SHOGI(PIECE) SMALL(LOZENGE SQUARE STAR) SMILING(FACE) SPADE(SUIT)
SQUARE.(BUTTON CONTAINING(BLACK(MEDIUM(SQUARE) SMALL(SQUARE) VERY(SMALL(SQUARE))))
WITH(CENTRE(VERTICAL(LINE)) LEFTWARDS(TICK) LOWER(LEFT(QUADRANT) RIGHT(QUADRANT)) RIGHTWARDS(TICK)
ROUNDED(CORNERS) UPPER(LEFT(QUADRANT) RIGHT(QUADRANT)) VERTICAL(BISECTING(LINE)))) STAR
SUN.(BEHIND(CLOUD.(WITH(RAIN))) WITH(RAYS SMALL(CLOUD))) TELEPHONE TOUCHTONE(TELEPHONE) TRAPEZIUM
TRIANGLE(CONTAINING(SMALL(WHITE(TRIANGLE)))) TWO-WAY(LEFT(WAY(TRAFFIC)))
UP(POINTING(BACKHAND(INDEX) INDEX)) UP-POINTING(CHEVRON SMALL(TRIANGLE) TRIANGLE.(WITH(DOT)))
VERTICAL(BAR ELLIPSE RECTANGLE) VERY(SMALL(SQUARE))) WHITE-FEATHERED(RIGHTWARDS(ARROW))
WIDE-HEADED(DOWNWARDS(BARB(ARROW) HEAVY(BARB(ARROW)) LIGHT(BARB(ARROW)) MEDIUM(BARB(ARROW))
VERY(HEAVY(BARB(ARROW)))) LEFTWARDS(BARB(ARROW) HEAVY(BARB(ARROW)) LIGHT(BARB(ARROW))
MEDIUM(BARB(ARROW)) VERY(HEAVY(BARB(ARROW)))) NORTH(EAST(BARB(ARROW) HEAVY(BARB(ARROW))
LIGHT(BARB(ARROW)) MEDIUM(BARB(ARROW)) VERY(HEAVY(BARB(ARROW)))) WEST(BARB(ARROW)
HEAVY(BARB(ARROW)) LIGHT(BARB(ARROW)) MEDIUM(BARB(ARROW)) VERY(HEAVY(BARB(ARROW)))))
RIGHTWARDS(BARB(ARROW) HEAVY(BARB(ARROW)) LIGHT(BARB(ARROW)) MEDIUM(BARB(ARROW))
VERY(HEAVY(BARB(ARROW)))) SOUTH(EAST(BARB(ARROW) HEAVY(BARB(ARROW)) LIGHT(BARB(ARROW))
MEDIUM(BARB(ARROW)) VERY(HEAVY(BARB(ARROW)))) WEST(BARB(ARROW) HEAVY(BARB(ARROW))
LIGHT(BARB(ARROW)) MEDIUM(BARB(ARROW)) VERY(HEAVY(BARB(ARROW))))) UPWARDS(BARB(ARROW)
HEAVY(BARB(ARROW)) LIGHT(BARB(ARROW)) MEDIUM(BARB(ARROW)) VERY(HEAVY(BARB(ARROW)))))
WIGGLY(VERTICAL(LINE)) WILTED(FLOWER) WIND(BLOWING(FACE) CHIME) WINDOW WINE(GLASS) WINKING(FACE)
WIRED(KEYBOARD) WJ WOLF(FACE) WOMAN.(WITH(BUNNY(EARS))) WOMANS(BOOTS CLOTHES HAT SANDAL)
WOMENS(SYMBOL) WON(SIGN) WOOD WORD(JOINER SEPARATOR(MIDDLE(DOT))) WORLD(MAP) WORM WORRIED(FACE)
WRAPPED(PRESENT) WREATH(PRODUCT) WRENCH WRESTLERS WRITING(HAND) X(IN(A(RECTANGLE(BOX)))) X-RAY
XIANGQI(BLACK(CANNON CHARIOT ELEPHANT GENERAL HORSE MANDARIN SOLDIER) RED(CANNON CHARIOT ELEPHANT
GENERAL HORSE MANDARIN SOLDIER)) XOR YAWNING(FACE) YELLOW(HEART) YEN(SIGN)
YEZIDI(COMBINING(HAMZA(MARK) MADDA(MARK)) HYPHENATION(MARK) LETTER(BE CHHIM CHIM CIM DAD DAL ELIF
ET EW EYN FA GAF HAY HHA JA KAF KHAF LAM.(WITH(DOT(ABOVE))) MIM NUN OW PE PHE QAF RA RHA SAD SE
SHIN SIN TA THE UM VA.(ALTERNATE(FORM)) WAW XA XHEYN YOT.(WITH(CIRCUMFLEX(ABOVE))) ZA ZAL ZE))
YI(RADICAL(BBUT BUR CHE CIP CUOP CY CYP CYT DDUR DU GA GEP GGOP GGUO GOT HMO HXIT HXOP HXUO JJIE
JJUT JJY JO KE KIT LI LIE LYR MI MOP NBIE NYIP NYOP NZUP OP PUT PYT QOT SHAT SHOP SHUR SHY SSI TAT
TU VEP VUR WO YIT YO ZA ZOT ZUP ZUR ZZIET) SYLLABLE(A AP AT AX BA BAP BAT BAX BBA BBAP BBAT BBAX
BBE BBEP BBEX BBI BBIE BBIEP BBIET BBIEX BBIP BBIT BBIX BBO BBOP BBOT BBOX BBU BBUO BBUOP BBUOX
BBUP BBUR BBURX BBUT BBUX BBY BBYP BBYT BBYX BE BEP BEX BI BIE BIEP BIET BIEX BIP BIT BIX BO BOP
BOT BOX BU BUO BUOP BUOX BUP BUR BURX BUT BUX BY BYP BYR BYRX BYT BYX CA CAP CAT CAX CE CEP CEX CHA
CHAP CHAT CHAX CHE CHEP CHET CHEX CHO CHOP CHOT CHOX CHU CHUO CHUOP CHUOT CHUOX CHUP CHUR CHURX
CHUX CHY CHYP CHYR CHYRX CHYT CHYX CI CIE CIEP CIET CIEX CIP CIT CIX CO COP COT COX CU CUO CUOP
CUOX CUP CUR CURX CUT CUX CY CYP CYR CYRX CYT CYX DA DAP DAT DAX DDA DDAP DDAT DDAX DDE DDEP DDEX
DDI DDIE DDIEP DDIEX DDIP DDIT DDIX DDO DDOP DDOT DDOX DDU DDUO DDUOP DDUOX DDUP DDUR DDURX DDUT
DDUX DE DEP DEX DI DIE DIEP DIEX DIP DIT DIX DO DOP DOT DOX DU DUO DUOX DUP DUR DURX DUT DUX E EX
FA FAP FAT FAX FI FIP FIT FIX FO FOP FOX FU FUP FUR FURX FUT FUX FY FYP FYT FYX GA GAP GAT GAX GE
GEP GET GEX GGA GGAP GGAT GGAX GGE GGEP GGET GGEX GGI GGIE GGIEP GGIEX GGIT GGIX GGO GGOP GGOT GGOX
GGU GGUO GGUOP GGUOT GGUOX GGUP GGUR GGURX GGUT GGUX GI GIE GIEP GIET GIEX GIP GIT GIX GO GOP GOT
GOX GU GUO GUOP GUOT GUOX GUP GUR GURX GUT GUX HA HAP HAT HAX HE HEP HEX HIE HIEX HIT HLA HLAP HLAT
HLAX HLE HLEP HLEX HLI HLIE HLIEP HLIEX HLIP HLIT HLIX HLO HLOP HLOX HLU HLUO HLUOP HLUOX HLUP HLUR
HLURX HLUT HLUX HLY HLYP HLYR HLYRX HLYT HLYX HMA HMAP HMAT HMAX HMI HMIE HMIEP HMIEX HMIP HMIT
HMIX HMO HMOP HMOT HMOX HMU HMUO HMUOP HMUOX HMUP HMUR HMURX HMUT HMUX HMY HMYP HMYR HMYRX HMYX HNA
HNAP HNAT HNAX HNE HNEP HNEX HNI HNIE HNIEP HNIET HNIEX HNIP HNIT HNIX HNOP HNOT HNOX HNUO HNUOX
HNUT HO HOP HOT HOX HUO HUOP HUOT HUOX HXA HXAP HXAT HXAX HXE HXEP HXEX HXI HXIE HXIEP HXIET HXIEX
HXIP HXIT HXIX HXO HXOP HXOT HXOX HXUO HXUOP HXUOT HXUOX I IE IEP IET IEX IP IT ITERATION(MARK) IX
JI JIE JIEP JIET JIEX JIP JIT JIX JJI JJIE JJIEP JJIET JJIEX JJIP JJIT JJIX JJO JJOP JJOT JJOX JJU
JJUO JJUOP JJUOX JJUP JJUR JJURX JJUT JJUX JJY JJYP JJYT JJYX JO JOP JOT JOX JU JUO JUOP JUOT JUOX
JUP JUR JURX JUT JUX JY JYP JYR JYRX JYT JYX KA KAP KAT KAX KE KEP KET KEX KI KIE KIEP KIEX KIP KIT
KIX KO KOP KOT KOX KU KUO KUOP KUOX KUP KUR KURX KUT KUX LA LAP LAT LAX LE LEP LEX LI LIE LIEP LIET
LIEX LIP LIT LIX LO LOP LOT LOX LU LUO LUOP LUOT LUOX LUP LUR LURX LUT LUX LY LYP LYR LYRX LYT LYX
MA MAP MAT MAX ME MEX MGA MGAP MGAT MGAX MGE MGEP MGEX MGIE MGIEX MGO MGOP MGOT MGOX MGU MGUO MGUOP
MGUOX MGUP MGUR MGURX MGUT MGUX MI MIE MIEP MIEX MIP MIT MIX MO MOP MOT MOX MU MUO MUOP MUOT MUOX
MUP MUR MURX MUT MUX MY MYP MYT MYX NA NAP NAX NBA NBAP NBAT NBAX NBI NBIE NBIEP NBIEX NBIP NBIT
NBIX NBO NBOP NBOT NBOX NBU NBUP NBUR NBURX NBUT NBUX NBY NBYP NBYR NBYRX NBYT NBYX NDA NDAP NDAT
NDAX NDE NDEP NDEX NDI NDIE NDIEX NDIP NDIT NDIX NDO NDOP NDOT NDOX NDU NDUP NDUR NDURX NDUT NDUX
NE NEP NEX NGA NGAP NGAT NGAX NGE NGEP NGEX NGIE NGIEP NGIEX NGO NGOP NGOT NGOX NGUO NGUOT NGUOX NI
NIE NIEP NIEX NIP NIT NIX NJI NJIE NJIEP NJIET NJIEX NJIP NJIT NJIX NJO NJOP NJOT NJOX NJU NJUO
NJUOX NJUP NJUR NJURX NJUX NJY NJYP NJYR NJYRX NJYT NJYX NO NOP NOT NOX NRA NRAP NRAT NRAX NRE NREP
NRET NREX NRO NROP NROX NRU NRUP NRUR NRURX NRUT NRUX NRY NRYP NRYR NRYRX NRYT NRYX NU NUO NUOP
NUOX NUP NUR NURX NUT NUX NYI NYIE NYIEP NYIET NYIEX NYIP NYIT NYIX NYO NYOP NYOT NYOX NYU NYUO
NYUOP NYUOX NYUP NYUT NYUX NZA NZAP NZAT NZAX NZE NZEX NZI NZIE NZIEP NZIEX NZIP NZIT NZIX NZOP
NZOX NZU NZUO NZUOX NZUP NZUR NZURX NZUX NZY NZYP NZYR NZYRX NZYT NZYX O OP OT OX PA PAP PAT PAX PI
PIE PIEP PIEX PIP PIT PIX PO POP POT POX PU PUO PUOP PUOX PUP PUR PURX PUT PUX PY PYP PYR PYRX PYT
PYX QI QIE QIEP QIET QIEX QIP QIT QIX QO QOP QOT QOX QU QUO QUOP QUOT QUOX QUP QUR QURX QUT QUX QY
QYP QYR QYRX QYT QYX RA RAP RAT RAX RE REP REX RO ROP ROT ROX RRA RRAX RRE RREP RRET RREX RRO RROP
RROT RROX RRU RRUO RRUOX RRUP RRUR RRURX RRUT RRUX RRY RRYP RRYR RRYRX RRYT RRYX RU RUO RUOP RUOX
RUP RUR RURX RUT RUX RY RYP RYR RYRX RYT RYX SA SAP SAT SAX SE SEP SEX SHA SHAP SHAT SHAX SHE SHEP
SHET SHEX SHO SHOP SHOT SHOX SHU SHUO SHUOP SHUOX SHUP SHUR SHURX SHUT SHUX SHY SHYP SHYR SHYRX
SHYT SHYX SI SIE SIEP SIEX SIP SIT SIX SO SOP SOT SOX SSA SSAP SSAT SSAX SSE SSEP SSEX SSI SSIE
SSIEP SSIEX SSIP SSIT SSIX SSO SSOP SSOT SSOX SSU SSUP SSUT SSUX SSY SSYP SSYR SSYRX SSYT SSYX SU
SUO SUOP SUOX SUP SUR SURX SUT SUX SY SYP SYR SYRX SYT SYX TA TAP TAT TAX TE TEP TEX TI TIE TIEP
TIEX TIP TIT TIX TO TOP TOT TOX TU TUO TUOP TUOT TUOX TUP TUR TURX TUT TUX UO UOP UOX VA VAP VAT
VAX VEP VEX VI VIE VIEP VIET VIEX VIP VIT VIX VO VOP VOT VOX VU VUP VUR VURX VUT VUX VY VYP VYR
VYRX VYT VYX WA WAP WAT WAX WE WEP WEX WO WOP WOX WU WUO WUOP WUOX XI XIE XIEP XIET XIEX XIP XIT
XIX XO XOP XOT XOX XUO XUOX XY XYP XYR XYRX XYT XYX YI YIE YIEP YIET YIEX YIP YIT YIX YO YOP YOT
YOX YU YUO YUOP YUOT YUOX YUP YUR YURX YUT YUX YY YYP YYR YYRX YYT YYX ZA ZAP ZAT ZAX ZE ZEP ZEX
ZHA ZHAP ZHAT ZHAX ZHE ZHEP ZHET ZHEX ZHO ZHOP ZHOT ZHOX ZHU ZHUO ZHUOP ZHUOX ZHUP ZHUR ZHURX ZHUT
ZHUX ZHY ZHYP ZHYR ZHYRX ZHYT ZHYX ZI ZIE ZIEP ZIEX ZIP ZIT ZIX ZO ZOP ZOT ZOX ZU ZUO ZUOP ZUOX ZUP
ZUR ZURX ZUT ZUX ZY ZYP ZYR ZYRX ZYT ZYX ZZA ZZAP ZZAT ZZAX ZZE ZZEP ZZEX ZZI ZZIE ZZIEP ZZIET
ZZIEX ZZIP ZZIT ZZIX ZZO ZZOP ZZOX ZZU ZZUP ZZUR ZZURX ZZUX ZZY ZZYP ZZYR ZZYRX ZZYT ZZYX))
YIN(YANG) YO-YO Z(NOTATION(BAG(MEMBERSHIP) DOMAIN(ANTIRESTRICTION) LEFT(BINDING(BRACKET)
IMAGE(BRACKET)) RANGE(ANTIRESTRICTION) RELATIONAL(COMPOSITION) RIGHT(BINDING(BRACKET)
IMAGE(BRACKET)) SCHEMA(COMPOSITION PIPING PROJECTION) SPOT TYPE(COLON)))
ZANABAZAR(SQUARE(CLOSING(DOUBLE-LINED(HEAD(MARK)) HEAD(MARK)) CLUSTER-FINAL(LETTER(LA RA VA YA))
CLUSTER-INITIAL(LETTER(RA)) FINAL(CONSONANT(MARK)) INITIAL(DOUBLE-LINED(HEAD(MARK)) HEAD(MARK))
LETTER(-A A BA BHA CA CHA DA DDA DDHA DHA DZA DZHA GA GHA HA JA KA KHA KSSA LA MA NA NGA NNA NYA PA
PHA RA SA SHA SSA TA THA TSA TSHA TTA TTHA VA YA ZA ZHA) MARK(DOUBLE(SHAD) LONG(TSHEG) SHAD TSHEG)
SIGN(ANUSVARA CANDRA(WITH(ORNAMENT)) CANDRABINDU.(WITH(ORNAMENT)) VIRAMA VISARGA) SUBJOINER
VOWEL(LENGTH(MARK) SIGN(AI AU E I O OE REVERSED(I) U UE)))) ZEBRA(FACE) ZERO(WIDTH(JOINER
NO-BREAK(SPACE) NON-JOINER SPACE)) ZEUS ZIPPER-MOUTH(FACE)
ZNAMENNY(COMBINING(ATTACHING(VERTICAL(OMET)) LOWER(TONAL(RANGE(INDICATOR))) MARK(BORZAYA
CHASHKA.(POLNAYA) CURVED(OMET) DEMESTVENNY(ZADERZHKA) DVOETOCHIE GORAZDO(NIZKO(ON(LEFT RIGHT)
S(KRYZHEM(ON(LEFT RIGHT)))) VYSOKO) KACHKA KRYZH.(ON(LEFT)) KUPNAYA LOMKA MALO(POVYSHE(ON(LEFT
RIGHT) S(KHOKHLOM(ON(LEFT RIGHT)) KRYZHEM) STRANNO)) NIZKO(ON(LEFT RIGHT) S(KRYZHEM(ON(LEFT
RIGHT)))) OBLACHKO ON OTSECHKA PODCHASHIE.(WITH(VERTICAL(STROKE))) PODVERTKA POVYSHE(ON(LEFT RIGHT)
S(KHOKHLOM(ON(LEFT RIGHT)) KRYZHEM) STRANNO) RAVNO RAZSEKA SKOBA SOROCHYA(NOZHKA) SREDNE(ON(LEFT
RIGHT)) STRANNO(MALO(POVYSHE)) TIKHAYA TOCHKA TSATA(ON(LEFT RIGHT) S(KRYZHEM)) UDARKA
VYSOKO(ON(LEFT RIGHT) S(KHOKHLOM(ON(LEFT RIGHT)) KRYZHEM)) ZADERZHKA ZELO ZEVOK)
TONAL(RANGE(MARK(MRACHNO SVETLO TRESVETLO)))) NEUME(CHASHKA CHELYUSTKA DEMESTVENNY(KLYUCH) DERBITSA
DOUBLE(ZAPYATAYA) DUDA DVA(V(CHELNU)) FITA GOLUBCHIK(BORZY MRACHNY SVETLY TIKHY TRESVETLY) KHAMILO
KLYUCH KOBYLA KRYUK.(TIKHY) KRYZH KUFISMA MECHIK.(KLYUCHENEPOSTOYANNY KLYUCHEPOVODNY KLYUCHEVOY
POVODNY) NEMKA OBLAKO OSOKA.(KLYUCHEVAYA(NEPOSTOYANNAYA SVETLAYA) KRYUKOVAYA(SVETLAYA) SVETLAYA
TRESVETLAYA) PALKA PARAKLIT PAUK PEREVODKA.(NEPOSTOYANNAYA) PODCHASHIE POLKULIZMY
REVERSED(CHELYUSTKA) ROG SKAMEYTSA(DVOECHELNAYA(KLYUCHEVAYA NEPOSTOYANNAYA PROSTAYA SVETLAYA)
KLYUCHENEPOSTOYANNAYA KLYUCHEVAYA(SVETLAYA TIKHAYA) MRACHNAYA SVETLAYA TIKHAYA TRESVETLAYA)
SLOZHITIE.(S(KRYZHEM ZAPYATOY) ZAKRYTOE) STATYA.(NEPOSTOYANNAYA S(DVUMYA(ZAPYATYMI)
KRYZHEM.(I(ZAPYATOY)) ROGOM ZAPYATOY.(I(KRYZHEM PODCHASHIEM))) ZAKRYTAYA.(S(ZAPYATOY)))
STOPITSA.(S(OCHKOM) WITH(SOROCHYA(NOZHKA))) STRELA(DVOECHELNAYA.(KLYUCHEVAYA) DVOECHELNOKRYZHEVAYA
DVOECHELNOPOVODNAYA.(KLYUCHEVAYA) GROMNAYA.(WITH(SINGLE(ZAPYATAYA))) GROMOKRYZHEVAYA.(POVODNAYA)
GROMOPOVODNAYA.(WITH(DOUBLE(ZAPYATAYA) SINGLE(ZAPYATAYA))) KLYUCHENEPOSTOYANNAYA KLYUCHEPOVODNAYA
KRYUKOVAYA.(GROMNAYA.(WITH(SINGLE(ZAPYATAYA))) GROMOKRYZHEVAYA.(POVODNAYA)
GROMOPOVODNAYA.(WITH(DOUBLE(ZAPYATAYA) SINGLE(ZAPYATAYA))) POVODNAYA TRYASKA) KRYZHEVAYA
MRACHNOTIKHAYA NEPOSTOYANNAYA POLUPOVODNAYA POVODNAYA PROSTAYA TIKHAYA(PUTNAYA) TRYASOGLASNAYA
TRYASOPOVODNAYA TRYASOSTRELNAYA) VRAKHIYA(KLYUCHEVAYA(MRACHNAYA PROSTAYA SVETLAYA TRESVETLAYA)
MRACHNAYA PROSTAYA SVETLAYA TRESVETLAYA) ZANOZHEK ZAPYATAYA ZMEYTSA)
PRIZNAK(MODIFIER(DIRECTION(FLIP) KRYZH LEVEL-2 LEVEL-3 ROG))) ZOMBIE ZWJ ZWNBSP ZWNJ ZWSP"

end Text
end ChainedSdk
